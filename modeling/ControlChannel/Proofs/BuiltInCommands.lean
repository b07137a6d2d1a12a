import ControlChannel.Proofs.HandlerCalls
import ControlChannel.Service

/-!
# The calls of the built-in commands

* `ServiceState.spoken_sending` — a call that only sends texts says those that have frames;
* `ServiceState.telling_ok`, `ServiceState.telling_ending` — a call whose texts can be written, and one
  that may fail at them;
* `ServiceState.execute_facts` — **every call counts, and changes nothing else**;
* `ServiceState.execute_asksEnd_iff` — only `kill` asks for the end of the service.
-/

namespace ControlChannel

namespace ServiceState

/-- A call that only sends texts says those that have frames. -/
theorem spoken_sending (texts : List Text) (value : Json) :
    (sending texts (.returned value)).spoken
      = texts.filter fun text => (Frame.encode (.packet text)).isOk := by
  have hopen : HandlerRun.sentOpen (sending texts (.returned value)).actions = texts.map .str := by
    show HandlerRun.sentOpen (texts.map fun text => .send (.str text)) = _
    induction texts with
    | nil => rfl
    | cons text texts ih => rw [List.map_cons, HandlerRun.sentOpen_cons_send, ih, List.map_cons]
  have hreported : (sending texts (.returned value)).reported = [] := rfl
  rw [HandlerRun.spoken, hopen, hreported, List.append_nil, List.filterMap_map,
    ← List.filterMap_eq_filter]
  exact List.filterMap_congr fun text _ => by simp [Json.spoken?, Option.guard]

/-- A call that only sends texts asks for the end of the service exactly if it returns `true`. -/
theorem asksEnd_sending_iff (texts : List Text) (ending : Ending) :
    (sending texts ending).AsksEnd ↔ ending = .returned (.bool true) := by
  simp [HandlerRun.AsksEnd, sending]

/-- A call whose texts can all be written sends them all. -/
theorem telling_ok (texts : List Text) (ending : Ending) :
    telling (texts.map .ok) ending = sending texts ending := by
  induction texts with
  | nil => rfl
  | cons text texts ih =>
    rw [List.map_cons, telling, ih]
    rfl

/-- A call that writes its texts one by one ends as it is to end, or fails at one of them. -/
theorem telling_ending (lines : List (Except HandlerFault Text)) (ending : Ending) :
    (telling lines ending).ending = ending ∨
      ∃ fault, .error fault ∈ lines ∧ (telling lines ending).ending = .failed fault := by
  induction lines with
  | nil => exact .inl rfl
  | cons line later ih =>
    cases line with
    | error fault => exact .inr ⟨fault, List.mem_cons_self, rfl⟩
    | ok text =>
      obtain hsame | ⟨fault, hmem, hfails⟩ := ih
      · exact .inl hsame
      · exact .inr ⟨fault, List.mem_cons_of_mem _ hmem, hfails⟩

/-- It asks for nothing on the way. -/
theorem not_asksEnd_telling {ending : Ending} (h : ending ≠ .returned (.bool true))
    (lines : List (Except HandlerFault Text)) : ¬ (telling lines ending).AsksEnd := by
  have hactions : .requestShutdown ∉ (telling lines ending).actions := by
    induction lines with
    | nil => exact List.not_mem_nil
    | cons line later ih =>
      cases line with
      | error fault => exact List.not_mem_nil
      | ok text => exact fun hmem => ih ((List.mem_cons.1 hmem).resolve_left nofun)
  rintro (hreturned | hasked)
  · obtain hsame | ⟨fault, -, hfails⟩ := telling_ending lines ending
    · exact h (hsame ▸ hreturned)
    · rw [hfails] at hreturned
      cases hreturned
  · exact hactions hasked

/-- **Every call counts**, and changes nothing else. -/
theorem execute_facts (s : ServiceState) (now : Instant) (i : Invocation) :
    (s.execute now i).2 = { s with commandsHandled := s.commandsHandled + 1 } := by
  unfold execute
  split <;> rfl

theorem call_asksEnd_iff (s : ServiceState) (now : Instant) (i : Invocation) (name : Text) :
    (s.call now i name).AsksEnd ↔ name = "kill" := by
  unfold call
  dsimp only
  split_ifs with hstatus hping hecho hrun hkill
  · rw [hstatus]
    exact iff_of_false (not_asksEnd_telling (by simp) _) (by decide)
  · rw [hping, asksEnd_sending_iff]
    simp
    decide
  · rw [hecho]
    cases i.text with
    | some words => exact iff_of_false (by simp [asksEnd_sending_iff]) (by decide)
    | none => exact iff_of_false (by simp [asksEnd_sending_iff]) (by decide)
  · rw [hrun]
    exact iff_of_false (not_asksEnd_telling (by simp) _) (by decide)
  · rw [asksEnd_sending_iff]
    exact iff_of_true rfl hkill
  · rw [asksEnd_sending_iff]
    exact iff_of_false Ending.noConfusion hkill

/-- **Only `kill` asks for the end of the service.** -/
theorem execute_asksEnd_iff (s : ServiceState) (now : Instant) (i : Invocation) :
    (s.execute now i).1.AsksEnd ↔ i.command = .str "kill" := by
  unfold execute
  cases i.command with
  | str name =>
    dsimp only
    rw [call_asksEnd_iff, Json.str.injEq]
  | _ =>
    dsimp only
    rw [asksEnd_sending_iff]
    exact iff_of_false Ending.noConfusion Json.noConfusion

end ServiceState

end ControlChannel
