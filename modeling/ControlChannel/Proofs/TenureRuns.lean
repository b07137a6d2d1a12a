import ControlChannel.Proofs.WritingEnds

/-!
# Serving, move by move

Beside the loop of a listener each connection that it accepted has a writing end, and whatever befalls
one of them is no matter of the others.

* `Tenure.Turned`, `Tenure.turned` — all that a turn can do;
* `Tenure.run_loop` — the loop goes on as it does alone;
* `Tenure.accepted` — the connections that were accepted;
* `Tenure.Keeps` — **every connection that was accepted has its writing end**, with a lemma for each
  thing that may happen, one for a step and one for a run;
* `Tenure.exists_rest` — serving comes to rest, and to its end once its token is retired.
-/

namespace ControlChannel

variable {Facts Command : Type}

namespace Tenure

/-! ### A turn -/

/-- What a turn comes to. -/
inductive Turned (d : Dispatch Facts Command) (t : Tenure Facts) : Tenure Facts → Prop
  | rests (stage : t.loop.stage = .waiting) (backlog : t.loop.backlog = []) : Turned d t t
  | accepts {connection : Connection} {later : List Connection} (stage : t.loop.stage = .waiting)
    (unretired : t.loop.listener.token.retired = false)
    (backlog : t.loop.backlog = connection :: later) :
    Turned d t { t with loop := { t.loop with stage := .accepted connection, backlog := later } }
  | begins {connection : Connection} (stage : t.loop.stage = .accepted connection)
    (unretired : t.loop.listener.token.retired = false) :
    Turned d t { t with loop := { t.loop with stage := .serving connection } }
  | hangs {connection : Connection} (stage : t.loop.stage = .serving connection)
    (hung : t.loop.listener.hangsOn d connection = true) : Turned d t t
  | serves {connection : Connection} (stage : t.loop.stage = .serving connection)
    (free : t.loop.listener.hangsOn d connection = false) :
    Turned d t
      { t with
        loop :=
          { t.loop with
            listener := (t.loop.listener.acceptThrough d connection).2
            stage := .waiting
            served := t.loop.served ++ [(t.loop.listener.acceptThrough d connection).1] }
        ends := t.ends ++ [d.writingEnd t.loop.listener.settings t.loop.listener.nextClient
          t.loop.listener.facts connection] }
  | ends (going : t.loop.stage ≠ .ended) (idle : t.loop.stage.isServing = false)
    (retired : t.loop.listener.token.retired = true) :
    Turned d t
      { t with
        loop := t.loop.finish
        files := (t.loop.listener.close t.files).2
        ends := t.ends ++ t.loop.stage.inHand.map fun _ => .shut { closes := 1 } }
  | waits (stage : t.loop.stage = .ended) : Turned d t t.wait

/-- These are all the things that a turn can do. -/
theorem turned (d : Dispatch Facts Command) (t : Tenure Facts) : Turned d t (t.turn d) := by
  unfold turn
  dsimp only
  cases hstage : t.loop.stage with
  | waiting =>
    dsimp only
    cases hretired : t.loop.listener.token.retired with
    | true =>
      have hends := Turned.ends (d := d) (t := t) (by simp [hstage]) (by rw [hstage]; rfl) hretired
      rw [hstage, show Loop.Stage.waiting.inHand = [] from rfl, List.map_nil, List.append_nil] at hends
      rw [if_pos rfl, show t.loop.turn d = t.loop.finish by simp [Loop.turn, hstage, hretired]]
      exact hends
    | false =>
      rw [if_neg Bool.false_ne_true]
      cases hbacklog : t.loop.backlog with
      | nil =>
        rw [show t.loop.turn d = t.loop by simp [Loop.turn, hstage, hretired, hbacklog]]
        exact .rests hstage hbacklog
      | cons connection later =>
        rw [show t.loop.turn d = { t.loop with stage := .accepted connection, backlog := later } by
          simp [Loop.turn, hstage, hretired, hbacklog]]
        exact .accepts hstage hretired hbacklog
  | accepted connection =>
    dsimp only
    cases hretired : t.loop.listener.token.retired with
    | true =>
      have hends := Turned.ends (d := d) (t := t) (by simp [hstage]) (by rw [hstage]; rfl) hretired
      rw [hstage, show (Loop.Stage.accepted connection).inHand = [connection] from rfl] at hends
      rw [if_pos rfl, show t.loop.turn d = t.loop.finish by simp [Loop.turn, hstage, hretired]]
      exact hends
    | false =>
      rw [if_neg Bool.false_ne_true,
        show t.loop.turn d = { t.loop with stage := .serving connection } by
          simp [Loop.turn, hstage, hretired]]
      exact .begins hstage hretired
  | serving connection =>
    dsimp only
    cases hhangs : t.loop.listener.hangsOn d connection with
    | true =>
      rw [if_pos rfl, show t.loop.turn d = t.loop by simp [Loop.turn, hstage, hhangs]]
      exact .hangs hstage hhangs
    | false =>
      rw [if_neg Bool.false_ne_true, show t.loop.turn d = { t.loop with
        listener := (t.loop.listener.acceptThrough d connection).2
        stage := .waiting
        served := t.loop.served ++ [(t.loop.listener.acceptThrough d connection).1] } by
          simp [Loop.turn, hstage, hhangs]]
      exact .serves hstage hhangs
  | ended => exact .waits hstage

/-- Waiting changes nothing of the loop. -/
theorem wait_loop (t : Tenure Facts) : t.wait.loop = t.loop := by
  unfold wait
  dsimp only
  split_ifs <;> rfl

theorem wait_files (t : Tenure Facts) : t.wait.files = t.files := by
  unfold wait
  dsimp only
  split_ifs <;> rfl

/-- **The loop of a listener goes on as it does alone**, whatever else happens. -/
theorem step_loop (d : Dispatch Facts Command) (t : Tenure Facts) (move : Move) :
    (t.step d move).loop = t.loop.run d (loopMoves [move]) := by
  cases move with
  | loop move =>
    cases move with
    | turn =>
      show (t.turn d).loop = t.loop.turn d
      unfold turn
      dsimp only
      split
      · split <;> rfl
      · split <;> rfl
      · split <;> rfl
      · rename_i hended
        rw [wait_loop]
        simp [Loop.turn, hended]
    | _ => rfl
  | _ => rfl

theorem loopMoves_cons (move : Move) (moves : List Move) :
    loopMoves (move :: moves) = loopMoves [move] ++ loopMoves moves := by
  cases move <;> rfl

theorem run_loop (d : Dispatch Facts Command) (t : Tenure Facts) (moves : List Move) :
    (t.run d moves).loop = t.loop.run d (loopMoves moves) := by
  induction moves generalizing t with
  | nil => rfl
  | cons move moves ih =>
    rw [loopMoves_cons, Loop.run_append, ← step_loop]
    exact ih (t.step d move)

/-! ### Which connections are accepted -/

/-- The connection that a move accepts, if it accepts one. -/
def accepting (t : Tenure Facts) : Move → List Connection
  | .loop .turn =>
    match t.loop.stage, t.loop.listener.token.retired with
    | .waiting, false => t.loop.backlog.take 1
    | _, _ => []
  | _ => []

/-- The connections that are accepted while things happen, in order. -/
def accepted (d : Dispatch Facts Command) (t : Tenure Facts) : List Move → List Connection
  | [] => []
  | move :: moves => t.accepting move ++ accepted d (t.step d move) moves

/-- The arrivals among what happens, in order. -/
def arrivals (moves : List Move) : List Connection := Loop.arrivals (loopMoves moves)

theorem arrivals_cons (move : Move) (moves : List Move) :
    arrivals (move :: moves) = arrivals [move] ++ arrivals moves := by
  rw [arrivals, loopMoves_cons, Loop.arrivals, List.filterMap_append]
  rfl

/-! ### What serving keeps -/

/-- A tenure that began with a listener keeps the writing ends of the connections `taken`, out of
those that came. -/
structure Keeps (d : Dispatch Facts Command) (l : Listener Facts) (steady : Nat → Prop)
    (came taken : List Connection) (t : Tenure Facts) : Prop where
  serves : t.loop.Serves d l came (came.take t.loop.served.length)
  first : taken <+: came
  /-- As long as the loop goes on, those that were accepted were served, or are in its hand. -/
  order : t.loop.stage ≠ .ended → taken = came.take t.loop.served.length ++ t.loop.stage.inHand
  count : t.ends.length + t.loop.stage.inHand.length = taken.length
  engaged : t.loop.served.length ≤ t.ends.length
  socket : t.loop.stage = .ended → t.loop.listener.inode = none
  waited : t.waited = true → t.loop.stage = .ended
  each : ∀ (k : Nat) (e : WritingEnd), t.ends[k]? = some e →
    e.Left l.settings.closeTimeout (steady k) t.waited
      (d.runs l.settings l.facts (came.take t.loop.served.length))[k]?.join

variable {d : Dispatch Facts Command} {l : Listener Facts} {steady : Nat → Prop}
  {came taken : List Connection} {t : Tenure Facts}

theorem keeps_begin (d : Dispatch Facts Command) (l : Listener Facts) (files : FileTree)
    (steady : Nat → Prop) : Keeps d l steady [] [] { loop := { listener := l }, files } where
  serves := Loop.serves_begin d l
  first := List.prefix_refl _
  order := fun _ => rfl
  count := rfl
  engaged := Nat.le_refl _
  socket := Loop.Stage.noConfusion
  waited := Bool.noConfusion
  each := fun _ _ h => by cases h

/-- A loop has served as many as it has seen. -/
theorem length_take_served (h : t.loop.Serves d l came (came.take t.loop.served.length)) :
    (came.take t.loop.served.length).length = t.loop.served.length := by
  have hserved := congrArg List.length h.served
  rw [Listener.length_serveAll] at hserved
  exact hserved.symm

/-- As long as the loop goes on, the writing ends are those of the connections that were served. -/
theorem Keeps.length_ends (h : Keeps d l steady came taken t) (going : t.loop.stage ≠ .ended) :
    t.ends.length = t.loop.served.length := by
  have hcount := h.count
  rw [h.order going, List.length_append, length_take_served h.serves] at hcount
  omega

/-- The connection that is being served is the next one of those that came. -/
theorem next_of_serving (h : t.loop.Serves d l came (came.take t.loop.served.length))
    {connection : Connection} (stage : t.loop.stage = .serving connection) :
    came[t.loop.served.length]? = some connection ∧
      came.take (t.loop.served.length + 1) = came.take t.loop.served.length ++ [connection] := by
  have hcame := h.order (by simp [stage])
  have hlength := length_take_served h
  rw [stage, show (Loop.Stage.serving connection).inHand = [connection] from rfl] at hcame
  have hnext : (came.take t.loop.served.length ++ [connection]).length = t.loop.served.length + 1 := by
    rw [List.length_append, hlength]
    rfl
  constructor
  · calc came[t.loop.served.length]?
        = (came.take t.loop.served.length ++ [connection] ++
            t.loop.backlog)[t.loop.served.length]? := by rw [hcame]
      _ = (came.take t.loop.served.length ++ [connection])[t.loop.served.length]? :=
          List.getElem?_append_left (by omega)
      _ = some connection := by
          rw [List.getElem?_append_right (by rw [hlength]), hlength, Nat.sub_self]
          rfl
  · calc came.take (t.loop.served.length + 1)
        = (came.take t.loop.served.length ++ [connection] ++ t.loop.backlog).take
            (t.loop.served.length + 1) := by rw [hcame]
      _ = _ := List.take_left' hnext

/-- A listener that has served connections goes on with its settings. -/
theorem settings_of_serves {seen : List Connection} {loop : Loop Facts}
    (h : loop.Serves d l came seen) : loop.listener.settings = l.settings := by
  have hsettings := congrArg Listener.settings h.core
  exact hsettings.trans (l.serveAll_settings d seen)

/-- The writing end of the connection that is being served, when that is done. -/
theorem left_of_serving (h : t.loop.Serves d l came (came.take t.loop.served.length))
    {connection : Connection} (stage : t.loop.stage = .serving connection)
    (hweather : steady t.loop.served.length → connection.weather.Steady) :
    (d.writingEnd t.loop.listener.settings t.loop.listener.nextClient t.loop.listener.facts
      connection).Left l.settings.closeTimeout (steady t.loop.served.length) false
      (d.runs l.settings l.facts
        (came.take (t.loop.served.length + 1)))[t.loop.served.length]?.join := by
  have hfacts := congrArg Listener.facts h.core
  rw [settings_of_serves h, show t.loop.listener.facts = _ from hfacts,
    d.getElem?_runs_take l came (Nat.lt_succ_self _), (next_of_serving h stage).1]
  exact WritingEnd.left_of_served d l.settings _ _ connection hweather

namespace Keeps

/-- Serving is over only behind the end of the loop. -/
theorem unwaited (h : Keeps d l steady came taken t) (going : t.loop.stage ≠ .ended) :
    t.waited = false := by
  rw [← Bool.not_eq_true]
  exact fun waited => going (h.waited waited)

/-- **Who is accepted** is the next one of those that came. -/
theorem accepts (h : Keeps d l steady came taken t) {connection : Connection}
    {later : List Connection} (stage : t.loop.stage = .waiting)
    (hserves : Loop.Serves d l came (came.take t.loop.served.length)
      { t.loop with stage := .accepted connection, backlog := later }) :
    Keeps d l steady came (taken ++ [connection])
      { t with loop := { t.loop with stage := .accepted connection, backlog := later } } := by
  have hgoing : t.loop.stage ≠ .ended := by simp [stage]
  have htaken : taken = came.take t.loop.served.length := by
    rw [h.order hgoing, stage]
    exact List.append_nil _
  have hcount := h.count
  rw [stage] at hcount
  refine ⟨hserves, ⟨later, ?_⟩, fun _ => ?_, ?_, h.engaged, Loop.Stage.noConfusion,
    fun waited => absurd (h.waited waited) hgoing, h.each⟩
  · rw [htaken]
    exact hserves.order Loop.Stage.noConfusion
  · rw [htaken]
    rfl
  · rw [List.length_append, ← hcount]
    rfl

/-- **Who is served** has a writing end by then. -/
theorem serves_next (h : Keeps d l steady came taken t) {connection : Connection}
    (stage : t.loop.stage = .serving connection)
    (free : t.loop.listener.hangsOn d connection = false)
    (hserves : Loop.Serves d l came (came.take (t.loop.served.length + 1)) (t.loop.turn d))
    (hweather : steady t.loop.served.length → connection.weather.Steady) :
    Keeps d l steady came taken
      { t with
        loop :=
          { t.loop with
            listener := (t.loop.listener.acceptThrough d connection).2
            stage := .waiting
            served := t.loop.served ++ [(t.loop.listener.acceptThrough d connection).1] }
        ends := t.ends ++ [d.writingEnd t.loop.listener.settings t.loop.listener.nextClient
          t.loop.listener.facts connection] } := by
  have hgoing : t.loop.stage ≠ .ended := by simp [stage]
  have hnext := (next_of_serving h.serves stage).2
  have hserved : (t.loop.served ++ [(t.loop.listener.acceptThrough d connection).1]).length =
      t.loop.served.length + 1 := List.length_append
  have hturn : t.loop.turn d =
      { t.loop with
        listener := (t.loop.listener.acceptThrough d connection).2
        stage := .waiting
        served := t.loop.served ++ [(t.loop.listener.acceptThrough d connection).1] } := by
    simp [Loop.turn, stage, free]
  have hends := h.length_ends hgoing
  have horder := h.order hgoing
  have hcount := h.count
  rw [stage] at horder hcount
  refine ⟨?serves, h.first, fun _ => ?order, ?count, ?engaged, Loop.Stage.noConfusion,
    fun waited => absurd (h.waited waited) hgoing, ?each⟩
  case serves =>
    show Loop.Serves d l came (came.take (List.length (_ ++ [_]))) _
    rw [hserved, ← hturn]
    exact hserves
  case order =>
    show taken = came.take (List.length (_ ++ [_])) ++ []
    rw [hserved, hnext, List.append_nil, horder]
    rfl
  case count =>
    show (t.ends ++ [_]).length + 0 = taken.length
    rw [← hcount, List.length_append]
    rfl
  case engaged =>
    show (t.loop.served ++ [_]).length ≤ (t.ends ++ [_]).length
    rw [List.length_append, List.length_append, hends]
    exact Nat.le_refl _
  case each =>
    intro k e hk
    show e.Left _ (steady k) t.waited (d.runs _ _ (came.take (List.length (_ ++ [_]))))[k]?.join
    rw [hserved]
    obtain hearlier | hlast := Nat.lt_or_ge k t.ends.length
    · have heach := h.each k e ((List.getElem?_append_left hearlier).symm.trans hk)
      have hlt : k < t.loop.served.length := hends ▸ hearlier
      rw [d.getElem?_runs_take l came (Nat.lt_succ_of_lt hlt), ← d.getElem?_runs_take l came hlt]
      exact heach
    · rw [List.getElem?_append_right hlast, List.getElem?_singleton] at hk
      split_ifs at hk with hzero
      obtain rfl : k = t.loop.served.length := by omega
      rw [← Option.some.inj hk, h.unwaited hgoing]
      exact left_of_serving h.serves stage hweather

/-- **At the end of the loop** who is in its hand is closed unread. -/
theorem ends (h : Keeps d l steady came taken t) (going : t.loop.stage ≠ .ended)
    (hserves : Loop.Serves d l came (came.take t.loop.served.length) t.loop.finish)
    (files : FileTree) :
    Keeps d l steady came taken
      { t with
        loop := t.loop.finish
        files
        ends := t.ends ++ t.loop.stage.inHand.map fun _ => .shut { closes := 1 } } := by
  have hends := h.length_ends going
  refine ⟨hserves, h.first, fun going => absurd rfl going, ?count, ?engaged, fun _ => rfl,
    fun _ => rfl, ?each⟩
  case count =>
    show (t.ends ++ t.loop.stage.inHand.map _).length = taken.length
    rw [← h.count, List.length_append, List.length_map]
  case engaged =>
    show t.loop.served.length ≤ (t.ends ++ _).length
    rw [List.length_append]
    exact Nat.le_add_right_of_le h.engaged
  case each =>
    intro k e hk
    show e.Left _ _ _ (d.runs l.settings l.facts (came.take t.loop.served.length))[k]?.join
    obtain hearlier | hlater := Nat.lt_or_ge k t.ends.length
    · exact h.each k e ((List.getElem?_append_left hearlier).symm.trans hk)
    · rw [List.getElem?_append_right hlater] at hk
      obtain ⟨_, _, rfl⟩ := List.mem_map.1 (List.mem_of_getElem? hk)
      rw [List.getElem?_eq_none (by rw [h.serves.length_runs, ← hends]; exact hlater)]
      exact ⟨rfl, rfl⟩

/-- **Waiting for the releases** leaves none of them under way. -/
theorem wait (h : Keeps d l steady came taken t) (stage : t.loop.stage = .ended) :
    Keeps d l steady came taken t.wait := by
  have hlength (time : Double) : (t.waitFor time).ends.length = t.ends.length := by
    unfold waitFor
    dsimp only
    split_ifs
    · exact List.length_map _
    · rfl
  unfold Tenure.wait
  dsimp only
  split_ifs with hwaited
  · exact h
  · refine ⟨h.serves, h.first, h.order, ?_, ?_, h.socket, fun _ => stage, fun k e hk => ?_⟩
    · rw [hlength]
      exact h.count
    · rw [hlength]
      exact h.engaged
    · unfold waitFor at hk
      dsimp only at hk
      split_ifs at hk with htime
      · rw [List.getElem?_map] at hk
        obtain ⟨before, hbefore, rfl⟩ := Option.map_eq_some_iff.1 hk
        exact (h.each k before hbefore).wait _
      · rw [settings_of_serves h.serves, Double.twice_isPositive] at htime
        exact (h.each k e hk).unwaited htime

end Keeps

/-- **A turn** leaves the writing end of the connection that it has done with. -/
theorem Turned.keeps {next : Tenure Facts} (turned : Turned d t next)
    (h : Keeps d l steady came taken t)
    (hserves : (t.loop.turn d).Serves d l came (came.take (t.loop.turn d).served.length))
    (hweather : ∀ k connection, steady k → came[k]? = some connection → connection.weather.Steady) :
    Keeps d l steady came (taken ++ t.accepting (.loop .turn)) next := by
  cases turned with
  | rests stage backlog =>
    have hnone : t.accepting (.loop .turn) = [] := by
      unfold accepting
      rw [stage, backlog]
      cases t.loop.listener.token.retired <;> rfl
    rw [hnone, List.append_nil]
    exact h
  | @accepts connection later stage unretired backlog =>
    have hone : t.accepting (.loop .turn) = [connection] := by
      simp [accepting, stage, unretired, backlog]
    rw [show t.loop.turn d = { t.loop with stage := .accepted connection, backlog := later } by
      simp [Loop.turn, stage, unretired, backlog]] at hserves
    rw [hone]
    exact h.accepts stage hserves
  | @begins connection stage unretired =>
    have hgoing : t.loop.stage ≠ .ended := by simp [stage]
    have hnone : t.accepting (.loop .turn) = [] := by simp [accepting, stage]
    rw [show t.loop.turn d = { t.loop with stage := .serving connection } by
      simp [Loop.turn, stage, unretired]] at hserves
    have horder := h.order hgoing
    have hcount := h.count
    rw [stage] at horder hcount
    rw [hnone, List.append_nil]
    exact ⟨hserves, h.first, fun _ => horder, hcount, h.engaged, Loop.Stage.noConfusion,
      fun waited => absurd (h.waited waited) hgoing, h.each⟩
  | hangs stage hung =>
    have hnone : t.accepting (.loop .turn) = [] := by simp [accepting, stage]
    rw [hnone, List.append_nil]
    exact h
  | @serves connection stage free =>
    have hnone : t.accepting (.loop .turn) = [] := by simp [accepting, stage]
    have hserved : (t.loop.turn d).served.length = t.loop.served.length + 1 := by
      simp [Loop.turn, stage, free]
    rw [hserved] at hserves
    rw [hnone, List.append_nil]
    exact h.serves_next stage free hserves fun hprogress =>
      hweather _ connection hprogress (next_of_serving h.serves stage).1
  | ends going idle retired =>
    have hnone : t.accepting (.loop .turn) = [] := by
      unfold accepting
      rw [retired]
      cases t.loop.stage <;> rfl
    have hfinish : t.loop.turn d = t.loop.finish := by
      cases hstage : t.loop.stage with
      | ended => exact absurd hstage going
      | serving connection =>
        rw [hstage] at idle
        cases idle
      | _ => simp [Loop.turn, hstage, retired]
    rw [hfinish] at hserves
    rw [hnone, List.append_nil]
    exact h.ends going hserves _
  | waits stage =>
    have hnone : t.accepting (.loop .turn) = [] := by simp [accepting, stage]
    rw [hnone, List.append_nil]
    exact h.wait stage

/-- What a loop has seen is what it has served of those that came. -/
theorem serves_take {loop : Loop Facts} (h : ∃ seen, loop.Serves d l came seen) :
    loop.Serves d l came (came.take loop.served.length) := by
  obtain ⟨seen, hseen⟩ := h
  rw [← hseen.seen_eq_take]
  exact hseen

/-- **Who comes** waits behind the others. -/
theorem Keeps.connect (h : Keeps d l steady came taken t) (connection : Connection) :
    Keeps d l steady (came ++ [connection]) taken (t.step d (.loop (.connect connection))) := by
  have hserves : (t.loop.step d (.connect connection)).Serves d l (came ++ [connection]) _ :=
    serves_take (Loop.step_serves h.serves (.connect connection))
  have hloop : (t.loop.step d (.connect connection)).served = t.loop.served ∧
      (t.loop.step d (.connect connection)).stage = t.loop.stage ∧
      (t.loop.step d (.connect connection)).listener = t.loop.listener := by
    unfold Loop.step
    dsimp only
    split <;> simp [*]
  have hle : t.loop.served.length ≤ came.length := by
    rw [← length_take_served h.serves, List.length_take]
    exact Nat.min_le_right _ _
  have htake : (came ++ [connection]).take t.loop.served.length = came.take t.loop.served.length :=
    List.take_append_of_le_length hle
  show Keeps d l steady _ taken { t with loop := t.loop.step d (.connect connection) }
  generalize t.loop.step d (.connect connection) = loop at hserves hloop
  obtain ⟨hserved, hstage, hlistener⟩ := hloop
  have horder := h.order
  have hcount := h.count
  have hsocket := h.socket
  have hwaited := h.waited
  rw [← hstage] at horder hcount hsocket hwaited
  rw [← hserved] at htake horder
  rw [← hlistener] at hsocket
  refine ⟨hserves, h.first.trans (List.prefix_append _ _), ?order, hcount, ?engaged, hsocket, hwaited,
    ?each⟩
  case order =>
    show _ → taken = (came ++ [connection]).take loop.served.length ++ _
    rw [htake]
    exact horder
  case engaged =>
    show loop.served.length ≤ _
    rw [hserved]
    exact h.engaged
  case each =>
    show ∀ (k : Nat) (e : WritingEnd), _ → e.Left _ _ _
      (d.runs _ _ ((came ++ [connection]).take loop.served.length))[k]?.join
    rw [htake, hserved]
    exact h.each

/-- **What befalls a writing end** leaves it to its connection. -/
theorem Keeps.chance (h : Keeps d l steady came taken t) (k : Nat) {chance : Course.Chance}
    (hsteady : steady k → chance.Steady) :
    Keeps d l steady came taken (t.step d (.chance k chance)) := by
  refine ⟨h.serves, h.first, h.order, ?_, ?_, h.socket, h.waited, fun j e hj => ?_⟩
  · show (t.ends.modify k _).length + _ = _
    rw [List.length_modify]
    exact h.count
  · show _ ≤ (t.ends.modify k _).length
    rw [List.length_modify]
    exact h.engaged
  · have hmodified : (t.ends.modify k (.befall chance))[j]? = some e := hj
    rw [List.getElem?_modify] at hmodified
    obtain ⟨before, hbefore, rfl⟩ := Option.map_eq_some_iff.1 hmodified
    have hleft := h.each j before hbefore
    split_ifs with hsame
    · rw [hsame] at hsteady
      exact hleft.befall hsteady
    · exact hleft

/-- **One step.** -/
theorem step_keeps (h : Keeps d l steady came taken t) (move : Move)
    (hweather : ∀ k connection, steady k → came[k]? = some connection → connection.weather.Steady)
    (hchance : ∀ k chance, steady k → move = .chance k chance → chance.Steady) :
    Keeps d l steady (came ++ arrivals [move]) (taken ++ t.accepting move) (t.step d move) := by
  cases move with
  | loop move =>
    cases move with
    | connect connection =>
      rw [show t.accepting (.loop (.connect connection)) = [] from rfl, List.append_nil]
      exact h.connect connection
    | retire reason =>
      rw [show t.accepting (.loop (.retire reason)) = [] from rfl, List.append_nil,
        show arrivals [.loop (.retire reason)] = [] from rfl, List.append_nil]
      exact ⟨⟨h.serves.first, h.serves.order, h.serves.served, h.serves.core, h.serves.socket⟩,
        h.first, h.order, h.count, h.engaged, h.socket, h.waited, h.each⟩
    | turn =>
      rw [show arrivals [.loop .turn] = [] from rfl, List.append_nil]
      exact (turned d t).keeps h (serves_take ((t.loop.turned d).serving h.serves)) hweather
  | chance k chance =>
    rw [show t.accepting (.chance k chance) = [] from rfl, List.append_nil,
      show arrivals [.chance k chance] = [] from rfl, List.append_nil]
    exact h.chance k fun hprogress => hchance k chance hprogress rfl
  | files files =>
    rw [show t.accepting (.files files) = [] from rfl, List.append_nil,
      show arrivals [.files files] = [] from rfl, List.append_nil]
    exact ⟨h.serves, h.first, h.order, h.count, h.engaged, h.socket, h.waited, h.each⟩

/-- Whether the transport of the connection with a number makes progress, in all that happens. -/
def SteadyAt (moves : List Move) (k : Nat) : Prop :=
  (∀ connection, (arrivals moves)[k]? = some connection → connection.weather.Steady) ∧
    ∀ chance, .chance k chance ∈ moves → chance.Steady

/-- Whether the transports make progress, in something that happens. -/
def Move.Steady : Move → Prop
  | .loop (.connect arriving) => arriving.weather.Steady
  | .chance _ befalling => befalling.Steady
  | _ => True

instance : (move : Move) → Decidable move.Steady
  | .loop (.connect arriving) => inferInstanceAs (Decidable arriving.weather.Steady)
  | .loop (.retire _) => isTrue trivial
  | .loop .turn => isTrue trivial
  | .chance _ befalling => inferInstanceAs (Decidable befalling.Steady)
  | .files _ => isTrue trivial

/-- Where the transports make progress in all that happens, each of them does. -/
theorem steadyAt_of_steady {moves : List Move} (h : ∀ move ∈ moves, move.Steady) (k : Nat) :
    SteadyAt moves k := by
  refine ⟨fun connection hconnection => ?_, fun chance hmem => h _ hmem⟩
  obtain ⟨move, hmem, hmove⟩ := List.mem_filterMap.1 (List.mem_of_getElem? hconnection)
  obtain ⟨outer, houter, hloop⟩ := List.mem_filterMap.1 hmem
  split at hmove
  · split at hloop
    · obtain rfl := Option.some.inj hloop
      obtain rfl := Option.some.inj hmove
      exact h _ houter
    · cases hloop
  · cases hmove

/-- **A run.** -/
theorem run_keeps (h : Keeps d l steady came taken t) (moves : List Move)
    (hweather : ∀ k connection, steady k → (came ++ arrivals moves)[k]? = some connection →
      connection.weather.Steady)
    (hchance : ∀ k chance, steady k → .chance k chance ∈ moves → chance.Steady) :
    Keeps d l steady (came ++ arrivals moves) (taken ++ t.accepted d moves) (t.run d moves) := by
  induction moves generalizing t came taken with
  | nil =>
    rw [show arrivals [] = [] from rfl, show t.accepted d [] = [] from rfl, List.append_nil,
      List.append_nil]
    exact h
  | cons move moves ih =>
    rw [arrivals_cons, ← List.append_assoc] at hweather ⊢
    rw [accepted, ← List.append_assoc]
    have hfirst : ∀ k chance, steady k → move = .chance k chance → chance.Steady :=
      fun k chance hprogress hmove => hchance k chance hprogress (hmove ▸ List.mem_cons_self)
    have hlater : ∀ k chance, steady k → .chance k chance ∈ moves → chance.Steady :=
      fun k chance hprogress hmem => hchance k chance hprogress (List.mem_cons_of_mem _ hmem)
    refine ih (step_keeps h move (fun k connection hprogress hcame => ?_) hfirst) hweather hlater
    have hlt : k < came.length := (List.getElem?_eq_some_iff.1 hcame).1
    refine hweather k connection hprogress ?_
    rw [List.append_assoc, List.getElem?_append_left hlt]
    exact hcame

/-- **What serving keeps from its beginning**, for the connections whose transports make progress. -/
theorem keeps_run (d : Dispatch Facts Command) (l : Listener Facts) (files : FileTree)
    (moves : List Move) :
    let begun : Tenure Facts := { loop := { listener := l }, files }
    Keeps d l (SteadyAt moves) (arrivals moves) (begun.accepted d moves) (begun.run d moves) :=
  run_keeps (keeps_begin d l files (SteadyAt moves)) moves
    (fun _ connection hprogress hcame => hprogress.1 connection hcame)
    fun _ chance hprogress hmem => hprogress.2 chance hmem

/-! ### Coming to the end -/

theorem wait_waited (t : Tenure Facts) : t.wait.waited = true := by
  unfold wait
  dsimp only
  split_ifs with hwaited
  · exact hwaited
  · rfl

theorem loopMoves_turns (turns : Nat) :
    loopMoves (List.replicate turns (.loop .turn)) = List.replicate turns .turn := by
  simp [loopMoves]

/-- Turns do not take a retirement back. -/
theorem run_turns_retired (d : Dispatch Facts Command)
    (retired : t.loop.listener.token.retired = true) (turns : Nat) :
    (t.run d (List.replicate turns (.loop .turn))).loop.listener.token.retired = true := by
  rw [run_loop, loopMoves_turns]
  generalize t.loop = loop at retired
  induction turns generalizing loop with
  | zero => exact retired
  | succ turns ih => exact ih _ (Loop.step_retired (d := d) retired .turn).1

/-- **Serving comes to rest** if its listener gets through: the loop waits with no one to accept, or
has ended.  Once its token is retired, serving comes to its end. -/
theorem exists_rest (d : Dispatch Facts Command) (t : Tenure Facts)
    (through : t.loop.stage ≠ .ended → t.loop.listener.GetsThrough d t.loop.coming) :
    ∃ turns, let rest := t.run d (List.replicate turns (.loop .turn))
      rest.loop.AtRest ∧ (t.loop.listener.token.retired = true → rest.waited = true) := by
  have hrests : ∃ turns, (t.loop.run d (List.replicate turns .turn)).AtRest := by
    by_cases hended : t.loop.stage = .ended
    · exact ⟨0, .inl hended⟩
    · exact Loop.exists_atRest (through hended)
  obtain ⟨turns, hrest⟩ := hrests
  rw [← loopMoves_turns, ← run_loop] at hrest
  have hkept := fun retired => run_turns_retired (t := t) d retired turns
  refine ⟨turns + 1, ?_⟩
  rw [List.replicate_succ', run_append]
  generalize t.run d (List.replicate turns (.loop .turn)) = later at hrest hkept
  show (later.turn d).loop.AtRest ∧ (_ → (later.turn d).waited = true)
  obtain hended | ⟨hwaiting, hbacklog, hunretired⟩ := hrest
  · have hturn : later.turn d = later.wait := by simp [turn, hended]
    rw [hturn, wait_loop]
    exact ⟨.inl hended, fun _ => wait_waited later⟩
  · have hturn : later.turn d = later := by
      simp [turn, Loop.turn, hwaiting, hbacklog, hunretired]
    rw [hturn]
    refine ⟨.inr ⟨hwaiting, hbacklog, hunretired⟩, fun retired => ?_⟩
    rw [hkept retired] at hunretired
    cases hunretired

end Tenure

end ControlChannel
