import ControlChannel.Listener.Weather
import ControlChannel.Proofs.ConnectionAnswer

/-!
# Connections over transports without faults

Where the writing end of a connection meets nothing, the connection comes to what it comes to over a
transport without faults.

* `Course.run_acts` — the actions of a handler one by one are the whole of them;
* `Course.step_shutdownRequested`, `Course.run_shutdownRequested` — **only its owner asks for the end
  of the service**, and this is never lost;
* `Dispatch.conductThrough_fair`, `Dispatch.serveThrough_fair`, `Listener.acceptThrough_fair` — a
  handler, a connection and its listener.
-/

namespace ControlChannel

/-! ### What the owner asked for -/

/-- Whether an action asks for the end of the service. -/
def Action.asksEnd : Action → Bool
  | .requestShutdown => true
  | _ => false

/-- Whether an event asks for the end of the service. -/
def Course.Event.asksEnd : Course.Event → Bool
  | .act action => action.asksEnd
  | _ => false

namespace OutputHandle

theorem close_shutdownRequested (h : OutputHandle) :
    h.close.shutdownRequested = h.shutdownRequested := by
  unfold close
  split <;> rfl

theorem send_shutdownRequested (h : OutputHandle) (value : Json) :
    (h.send value).2.1.shutdownRequested = h.shutdownRequested := by
  unfold send
  split
  · rfl
  · split
    · rfl
    · split
      · rfl
      · split <;> rfl

theorem release_shutdownRequested (h : OutputHandle) :
    h.release.shutdownRequested = h.shutdownRequested := by
  unfold release
  dsimp only
  split
  · rfl
  · split <;> rfl

theorem runRelease_shutdownRequested (h : OutputHandle) :
    h.runRelease.1.shutdownRequested = h.shutdownRequested := by
  unfold runRelease
  split
  · exact h.release_shutdownRequested
  · unfold notify
    split
    · exact h.release_shutdownRequested
    · split
      · exact release_shutdownRequested _
      · exact release_shutdownRequested _
      · rfl
  · rfl

theorem expire_shutdownRequested (h : OutputHandle) :
    h.expire.1.shutdownRequested = h.shutdownRequested := by
  unfold expire
  split
  · exact h.release_shutdownRequested
  · rfl
  · rfl

end OutputHandle

namespace Course

/-- **Only the owner asks for the end of the service, and nothing takes this back.** -/
theorem step_shutdownRequested (c : Course) (event : Event) :
    (c.step event).handle.shutdownRequested
      = (c.handle.shutdownRequested || event.asksEnd) := by
  cases event with
  | leave fault =>
    simp [step, act, OutputHandle.act, Event.asksEnd, OutputHandle.close_shutdownRequested]
  | act action =>
    cases action with
    | send value =>
      simp [step, act, OutputHandle.act, Event.asksEnd, Action.asksEnd,
        OutputHandle.send_shutdownRequested]
    | close =>
      simp [step, act, OutputHandle.act, Event.asksEnd, Action.asksEnd,
        OutputHandle.close_shutdownRequested]
    | requestShutdown =>
      simp [step, act, OutputHandle.act, Event.asksEnd, Action.asksEnd, OutputHandle.requestShutdown]
  | chance chance =>
    show _ = (c.handle.shutdownRequested || false)
    rw [Bool.or_false]
    cases chance with
    | mode mode => rfl
    | wake fault =>
      show (c.wake fault).handle.shutdownRequested = _
      unfold wake
      split <;> rfl
    | settle => exact c.handle.runRelease_shutdownRequested
    | expire => exact c.handle.expire_shutdownRequested

theorem run_shutdownRequested (c : Course) (events : List Event) :
    (c.run events).handle.shutdownRequested
      = (c.handle.shutdownRequested || events.any Event.asksEnd) := by
  induction events generalizing c with
  | nil => simp
  | cons event events ih => rw [run_cons, ih, step_shutdownRequested, List.any_cons, Bool.or_assoc]

/-! ### Without faults -/

/-- The actions of a handler one by one come to the whole of them. -/
theorem run_acts (c : Course) (actions : List Action) :
    (c.run (actions.map .act)).handle = (c.handle.actAll actions).2.1 ∧
      (c.run (actions.map .act)).results = c.results ++ (c.handle.actAll actions).1 ∧
      (c.run (actions.map .act)).notices = c.notices ++ (c.handle.actAll actions).2.2 := by
  induction actions generalizing c with
  | nil => exact ⟨rfl, (List.append_nil _).symm, (List.append_nil _).symm⟩
  | cons action actions ih =>
    obtain ⟨hhandle, hresults, hnotices⟩ := ih (c.act action)
    refine ⟨hhandle, hresults.trans ?_, hnotices.trans ?_⟩
    · exact List.append_assoc _ _ _
    · exact List.append_assoc _ _ _

end Course

namespace OutputHandle

variable {h : OutputHandle} {time : Double} {taken : List Message}

theorem send_stands {closed : Bool} (stands : Stands time closed taken h) (value : Json) :
    ∃ later, Stands time closed later (h.send value).2.1 := by
  cases closed with
  | false => exact ⟨_, send_stands_open stands value⟩
  | true => exact ⟨_, send_stands_closed stands value⟩

/-- Over a transport without faults a release that gets to run does not hang. -/
theorem runRelease_released (stands : Stands time true taken h) :
    h.runRelease.1.phase = .released := by
  have hrelease : ∀ k : OutputHandle, k.transport.mode = {} → k.release.phase = .released := by
    intro k hmode
    have hwait : k.transport.close.waitClosed = .done := by
      simp [Transport.waitClosed, Transport.close, hmode]
    unfold release
    dsimp only
    rw [hwait]
    split <;> rfl
  unfold runRelease
  rw [show h.phase = .scheduled false from stands.phase]
  dsimp only
  unfold notify
  split
  · exact hrelease h (by rw [stands.transport])
  · rw [stands.transport]
    exact hrelease _ rfl

/-- A handle that was released has no step that hangs. -/
theorem expire_of_released (released : h.phase = .released) : h.expire = (h, []) := by
  unfold expire
  rw [released]

end OutputHandle

namespace Weather

variable {c : Course} {time : Double} {closed : Bool} {taken : List Message}

theorem course_fair (actions : List Action) : course [] actions = actions.map .act := by
  induction actions with
  | nil => rfl
  | cons action actions ih =>
    show .act action :: course [] actions = _
    rw [ih]
    rfl

theorem conclude_fair_cons (c : Course) (action : Action) (actions : List Action) :
    conclude [] c (action :: actions) = conclude [] (c.act action) actions := by
  simp [conclude, course_fair, Course.step]

/-- Closing a handle over a transport without faults ends with its release. -/
theorem conclude_fair_close (stands : OutputHandle.Stands time closed taken c.handle) :
    (conclude [] c [.close]).handle = c.handle.close.runRelease.1 ∧
      (conclude [] c [.close]).notices = c.notices ++ c.handle.close.runRelease.2 := by
  have hreleased := OutputHandle.runRelease_released (OutputHandle.close_stands stands)
  have hexpire := OutputHandle.expire_of_released hreleased
  simp [conclude, course_fair, Course.step, Course.act, OutputHandle.act, Course.befall, hexpire]

end Weather

/-! ### A connection without faults -/

namespace Dispatch

variable {Facts Command : Type}

theorem conductThrough_fair (settings : ServeSettings) (client : Text) (run : HandlerRun) :
    conductThrough settings client [] run = conduct settings client run := by
  have hfresh : OutputHandle.Stands settings.closeTimeout false []
      { client, closeTimeout := settings.closeTimeout } := ⟨rfl, rfl, rfl, rfl⟩
  have hstands := OutputHandle.actAll_stands run.actions hfresh
  obtain ⟨hhandle, hresults, hnotices⟩ :=
    (Course.fresh client settings.closeTimeout {}).run_acts run.actions
  unfold conductThrough conduct engage
  rw [Weather.course_fair, List.drop_nil]
  dsimp only [Course.fresh] at hhandle hresults hnotices ⊢
  generalize Course.run _ (run.actions.map .act) = acted at hhandle hresults hnotices ⊢
  rw [← hhandle] at hstands
  cases run.ending with
  | returned value =>
    obtain ⟨hended, htold⟩ := Weather.conclude_fair_close
      (c := { acted with
        notices := acted.notices ++
          if value.isBool then [] else [.handlerReturned client value.kindName] }) hstands
    dsimp only at hended htold ⊢
    rw [hended, htold, hresults, hnotices, hhandle, List.nil_append, List.nil_append]
  | failed fault =>
    obtain ⟨later, hreported⟩ := OutputHandle.send_stands hstands (.str fault.report)
    obtain ⟨hended, htold⟩ := Weather.conclude_fair_close
      (c := Course.act { acted with notices := acted.notices ++ [fault.notice client] }
        (.send (.str fault.report))) hreported
    rw [← Weather.conclude_fair_cons] at hended htold
    dsimp only [Course.act, OutputHandle.act] at hended htold ⊢
    rw [hended, htold, hresults, hnotices, hhandle]
    simp [OutputHandle.send_shutdownRequested]

/-- **Where the writing end meets nothing, a connection comes to what it comes to without faults.** -/
theorem serveThrough_fair (d : Dispatch Facts Command) (settings : ServeSettings) (client : Text)
    (facts : Facts) (delivery : Delivery) :
    d.serveThrough settings client facts { delivery } = d.serve settings client facts delivery := by
  unfold serveThrough serve
  dsimp only
  cases heard settings delivery with
  | message m later =>
    cases m with
    | args argv =>
      dsimp only [answer]
      cases d.read argv with
      | error text =>
        dsimp only [rejectedThrough, rejected]
        cases OutputHandle.packetFor (.str text) <;> rfl
      | ok command =>
        dsimp only
        rw [conductThrough_fair]
    | idRequest =>
      dsimp only [identifiedThrough, reply]
      cases settings.idResponse <;> rfl
    | _ => rfl
  | _ => rfl

end Dispatch

theorem Listener.acceptThrough_fair {Facts Command : Type} (d : Dispatch Facts Command)
    (l : Listener Facts) (delivery : Delivery) :
    l.acceptThrough d { delivery } = l.accept d delivery := by
  unfold acceptThrough accept
  rw [Dispatch.serveThrough_fair]

end ControlChannel
