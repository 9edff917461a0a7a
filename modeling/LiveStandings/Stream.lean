/-
The SSE connections of an api instance.  Each one subscribes to the hub, sends
a frame for every nudge of its queue and a comment when none came for a while,
and ends when its client goes or its time is up.
-/
import LiveStandings.EventHub
import LiveStandings.Library.EventStream
import LiveStandings.Library.JsonText
import Mathlib.Data.List.TakeWhile

namespace LiveStandings

open BoundedQueue EventStream JsonText PyJson Runs

universe u

/-- `_HEARTBEAT_INTERVAL_SECONDS`, in microseconds. -/
def heartbeatInterval : Int := 20000000

/-- `_MAX_STREAM_LIFETIME_SECONDS`, in microseconds. -/
def maxStreamLifetime : Int := 600000000

/-- `_HEARTBEAT`. -/
def heartbeat : List Char := ": heartbeat\n\n".toList

/-- `list(tournament_ids)`, or `None`. -/
def scopeJson : Option (List Int) → Json
  | none => .null
  | some ids => .arr (ids.map .int)

/-- The payload of a nudge; `isoformat` is the one of a datetime. -/
def nudgePayload (isoformat : Instant → String) (nudge : Nudge) : Json :=
  .obj [("polled_at", .str (isoformat nudge.polledAt)),
    ("tournament_ids", scopeJson nudge.tournamentIds)]

def eventField : List Char := "event: ".toList

def dataField : List Char := "data: ".toList

/-- `_format_nudge`. -/
def formatNudge (isoformat : Instant → String) (nudge : Nudge) : List Char :=
  eventField ++ nudge.event.value.toList ++ ['\n'] ++
    (dataField ++ dumps (nudgePayload isoformat nudge) ++ ['\n', '\n'])

/-- What a connection yields. -/
inductive Yielded where
  | heartbeat
  | nudge (nudge : Nudge)
deriving Repr, DecidableEq

def Yielded.text (isoformat : Instant → String) : Yielded → List Char
  | .heartbeat => LiveStandings.heartbeat
  | .nudge sent => formatNudge isoformat sent

/-- Where the loop of `_event_stream` stands. -/
inductive LoopState where
  | top
  | waiting (expiresAt : Instant)
  | ended
deriving Repr, DecidableEq

/-- One call of `_event_stream`: its deadline, what it has yielded, and where
it stands. -/
structure Connection where
  deadline : Instant
  yielded : List Yielded
  state : LoopState
deriving Repr, DecidableEq

/-- The loop from its top to the wait for a nudge. -/
def Connection.proceed (connection : Connection) (disconnected : Bool)
    (now : Instant) : Connection :=
  let remaining := connection.deadline - now
  if disconnected || remaining ≤ 0 then { connection with state := .ended }
  else
    { connection with
      state := .waiting (now + min heartbeatInterval remaining) }

/-- A frame is yielded, and the loop is back at its top. -/
def Connection.yield (connection : Connection) (frame : Yielded) :
    Connection :=
  { connection with
    yielded := connection.yielded ++ [frame]
    state := .top }

/-- An api instance: its hub, its clock, and the connections it was asked
for. -/
structure StreamServer (S : Type u) where
  hub : EventHub S
  now : Instant
  connection : S → Option Connection

/-- An instance that has just started. -/
def StreamServer.start (now : Instant) {S : Type u} : StreamServer S :=
  ⟨.empty, now, fun _ => none⟩

/-- What happens: a client connects; its loop comes to the top, takes a nudge,
waits in vain or is cancelled; the hub publishes. -/
inductive StreamAct (S : Type u) where
  | connect (s : S) (now : Instant)
  | proceed (s : S) (disconnected : Bool) (now : Instant)
  | get (s : S) (nudge : Nudge) (now : Instant)
  | timeout (s : S) (now : Instant)
  | cancel (s : S)
  | publish (publication : Publication)

variable {S : Type u} [DecidableEq S]

/-- The connection moves on; the `finally` block unsubscribes it. -/
def StreamServer.put (σ : StreamServer S) (s : S) (connection : Connection) :
    StreamServer S :=
  { σ with
    hub := if connection.state = .ended then σ.hub.unsubscribe s else σ.hub
    connection := Function.update σ.connection s (some connection) }

section Put

variable (σ : StreamServer S) (s : S) (connection : Connection)

@[simp] theorem now_put : (σ.put s connection).now = σ.now := rfl

@[simp] theorem connection_put_self :
    (σ.put s connection).connection s = some connection :=
  Function.update_self _ _ _

theorem connection_put_of_ne {t : S} (ht : t ≠ s) :
    (σ.put s connection).connection t = σ.connection t :=
  Function.update_of_ne ht _ _

@[simp] theorem queue_put_self :
    (σ.put s connection).hub.queue s =
      if connection.state = .ended then none else σ.hub.queue s := by
  rw [StreamServer.put]
  split
  · exact queue_setQueue_self _ _ _
  · rfl

theorem queue_put_of_ne {t : S} (ht : t ≠ s) :
    (σ.put s connection).hub.queue t = σ.hub.queue t := by
  rw [StreamServer.put]
  split
  · exact queue_setQueue_of_ne _ ht _
  · rfl

end Put

inductive StreamStep :
    StreamServer S → StreamAct S → StreamServer S → Prop where
  | connect {σ : StreamServer S} {s : S} {now : Instant}
      (hnow : σ.now ≤ now) (hnew : σ.connection s = none) :
      StreamStep σ (.connect s now)
        { hub := σ.hub.subscribe s
          now := now
          connection := Function.update σ.connection s
            (some ⟨now + maxStreamLifetime, [], .top⟩) }
  | proceed {σ : StreamServer S} {s : S} {now : Instant}
      {connection : Connection} (disconnected : Bool) (hnow : σ.now ≤ now)
      (hconnection : σ.connection s = some connection)
      (hstate : connection.state = .top) :
      StreamStep σ (.proceed s disconnected now)
        (StreamServer.put { σ with now := now } s
          (connection.proceed disconnected now))
  | get {σ : StreamServer S} {s : S} {now expiresAt : Instant}
      {connection : Connection} {queue rest : List Nudge} {nudge : Nudge}
      (hnow : σ.now ≤ now)
      (hconnection : σ.connection s = some connection)
      (hstate : connection.state = .waiting expiresAt)
      (hqueue : σ.hub.queue s = some queue)
      (hget : getNowait queue = some (nudge, rest)) :
      StreamStep σ (.get s nudge now)
        (StreamServer.put
          { σ with hub := σ.hub.setQueue s (some rest), now := now } s
          (connection.yield (.nudge nudge)))
  | timeout {σ : StreamServer S} {s : S} {now expiresAt : Instant}
      {connection : Connection} (hnow : σ.now ≤ now)
      (hconnection : σ.connection s = some connection)
      (hstate : connection.state = .waiting expiresAt)
      (hexpired : expiresAt ≤ now) :
      StreamStep σ (.timeout s now)
        (StreamServer.put { σ with now := now } s
          (connection.yield .heartbeat))
  | cancel {σ : StreamServer S} {s : S} {connection : Connection}
      (hconnection : σ.connection s = some connection)
      (hstate : connection.state ≠ .ended) :
      StreamStep σ (.cancel s)
        (σ.put s { connection with state := .ended })
  | publish {σ : StreamServer S} (publication : Publication) :
      StreamStep σ (.publish publication)
        { σ with hub := σ.hub.publish publication }

/-! ### The client -/

section Client

variable (isoformat : Instant → String)

/-- What a client reads off a nudge: the event, when, and for which
tournaments. -/
abbrev ReadNudge := EventType × String × Option (List Int)

/-- The scope in a payload. -/
def readScope : Json → Option (Option (List Int))
  | .null => some none
  | .arr ids => (ids.mapM Json.asInt?).map some
  | _ => none

/-- When, and for which tournaments. -/
def readPayload (payload : Json) : Option (String × Option (List Int)) := do
  let scope ← readScope (← (payload.item "tournament_ids").toOption)
  match payload.item "polled_at" with
  | .ok (.str polledAt) => some (polledAt, scope)
  | _ => none

def readEvent (name : List Char) : Option EventType :=
  [EventType.standings, .live, .recentMatches].find? (·.value.toList == name)

/-- A client reads a message. -/
def readNudge (message : Message) : Option ReadNudge := do
  let event ← readEvent message.event
  let (polledAt, scope) ← readPayload (← loads message.data)
  some (event, polledAt, scope)

/-- What a nudge says. -/
def Nudge.tells (nudge : Nudge) : ReadNudge :=
  (nudge.event, isoformat nudge.polledAt, nudge.tournamentIds)

/-- The message of a nudge. -/
def Nudge.message (nudge : Nudge) : Message where
  event := nudge.event.value.toList
  data := dumps (nudgePayload isoformat nudge)

theorem mapM_asInt (ids : List Int) :
    (ids.map Json.int).mapM Json.asInt? = some ids := by
  induction ids with
  | nil => rfl
  | cons id ids ih =>
      rw [List.map_cons, List.mapM_cons, ih]
      rfl

theorem readPayload_nudgePayload (nudge : Nudge) :
    readPayload (nudgePayload isoformat nudge) =
      some (isoformat nudge.polledAt, nudge.tournamentIds) := by
  have hscope : readScope (scopeJson nudge.tournamentIds) =
      some nudge.tournamentIds := by
    cases nudge.tournamentIds with
    | none => rfl
    | some ids => rw [scopeJson, readScope, mapM_asInt, Option.map_some]
  have hids : (nudgePayload isoformat nudge).item "tournament_ids" =
      .ok (scopeJson nudge.tournamentIds) := rfl
  rw [readPayload, hids]
  simp only [Except.toOption, Option.bind_eq_bind, Option.bind_some, hscope]
  rfl

theorem readNudge_message (nudge : Nudge) :
    readNudge (nudge.message isoformat) = some (nudge.tells isoformat) := by
  have hevent : readEvent nudge.event.value.toList = some nudge.event := by
    cases nudge.event <;> decide
  simp only [readNudge, Nudge.message, loads_dumps, hevent,
    Option.bind_eq_bind, Option.bind_some, readPayload_nudgePayload]
  rfl

theorem unbroken_of_printable {text : List Char}
    (htext : ∀ c ∈ text, Printable c) : ∀ c ∈ text, c ≠ '\n' ∧ c ≠ '\r' := by
  refine fun c hc => ⟨?_, ?_⟩
  · rintro rfl
    exact absurd (htext _ hc) (by decide)
  · rintro rfl
    exact absurd (htext _ hc) (by decide)

/-- The lines of the frame of a nudge. -/
def Nudge.lines (nudge : Nudge) : List (List Char) :=
  [eventField ++ nudge.event.value.toList,
    dataField ++ dumps (nudgePayload isoformat nudge)]

theorem Nudge.lines_printable (nudge : Nudge) :
    ∀ line ∈ nudge.lines isoformat, ∀ c ∈ line, Printable c := by
  have hvalue : ∀ c ∈ eventField ++ nudge.event.value.toList,
      Printable c := by
    refine printable_of_all ?_
    cases nudge.event <;> decide
  have hname : ∀ c ∈ dataField, Printable c := printable_of_all (by decide)
  intro line hline c hc
  rw [Nudge.lines, List.mem_cons, List.mem_singleton] at hline
  rcases hline with rfl | rfl
  · exact hvalue c hc
  · rcases List.mem_append.mp hc with hfield | hdata
    · exact hname c hfield
    · exact printable_dumps _ c hdata

/-- What is yielded is a frame. -/
def Yielded.frame : Yielded → EventStream.Frame
  | .heartbeat =>
      { lines := [": heartbeat".toList]
        nonempty := by simp
        unbroken := by
          intro line hline
          rw [List.mem_singleton] at hline
          subst hline
          exact unbroken_of_printable (printable_of_all (by decide)) }
  | .nudge sent =>
      { lines := sent.lines isoformat
        nonempty := by
          intro line hline
          rw [Nudge.lines, List.mem_cons, List.mem_singleton] at hline
          rcases hline with rfl | rfl <;> exact List.cons_ne_nil _ _
        unbroken := fun line hline =>
          unbroken_of_printable (sent.lines_printable isoformat line hline) }

theorem render_frame (frame : Yielded) :
    (frame.frame isoformat).render = frame.text isoformat := by
  cases frame with
  | heartbeat =>
      have hrender : [": heartbeat".toList].flatMap (· ++ ['\n']) ++ ['\n'] =
          heartbeat := by
        decide
      exact hrender
  | nudge sent =>
      simp [Yielded.frame, EventStream.Frame.render, EventStream.Frame.body,
        Nudge.lines, Yielded.text, formatNudge]

/-- The nudges among the frames. -/
def nudgesOf (frames : List Yielded) : List Nudge :=
  frames.filterMap fun frame =>
    match frame with
    | .heartbeat => none
    | .nudge sent => some sent

theorem messages_frame (frame : Yielded) :
    (frame.frame isoformat).messages =
      (nudgesOf [frame]).map (Nudge.message isoformat) := by
  cases frame with
  | heartbeat => rfl
  | nudge sent =>
      have hevent : Source.start.take
          (eventField ++ sent.event.value.toList) =
            { Source.start with event := sent.event.value.toList } := by
        cases sent.event <;> rfl
      have hdata : ∀ (source : Source) (text : List Char),
          source.take (dataField ++ text) =
            { source with data := source.data ++ text ++ ['\n'] } :=
        fun _ _ => rfl
      have hvalue : sent.event.value.toList ≠ [] := by
        cases sent.event <;> decide
      simp only [EventStream.Frame.messages, Yielded.frame, Nudge.lines,
        List.foldl_cons, List.foldl_nil, hevent, hdata]
      simp [Source.dispatch, Source.start, hvalue, nudgesOf, Nudge.message]

/-- Of these frames the first ones are complete in what was received, and the
next one is not; the client has read the nudges of the complete ones, and
nothing else. -/
structure ReadBack (complete rest : List Yielded) (received : List Char) :
    Prop where
  whole : complete.flatMap (Yielded.text isoformat) <+: received
  incomplete : ∀ next ∈ rest.head?, ¬(complete ++ [next]).flatMap
    (Yielded.text isoformat) <+: received
  read : (Source.start.feed received).dispatched.map readNudge =
    (nudgesOf complete).map fun sent => some (sent.tells isoformat)

theorem read_received (frames : List Yielded) {received : List Char}
    (hreceived : received <+: frames.flatMap (Yielded.text isoformat)) :
    ∃ complete rest, frames = complete ++ rest ∧
      ReadBack isoformat complete rest received := by
  have htext : ∀ frames : List Yielded,
      frames.flatMap (Yielded.text isoformat) =
        (frames.map (Yielded.frame isoformat)).flatMap
          EventStream.Frame.render := by
    intro frames
    rw [List.flatMap_map]
    exact List.flatMap_congr fun frame _ => (render_frame isoformat frame).symm
  have hmessages : ∀ frames : List Yielded,
      (frames.map (Yielded.frame isoformat)).flatMap
        EventStream.Frame.messages =
          (nudgesOf frames).map (Nudge.message isoformat) := by
    intro frames
    induction frames with
    | nil => rfl
    | cons frame frames ih =>
        rw [List.map_cons, List.flatMap_cons, ih, messages_frame,
          ← List.map_append]
        exact congrArg _ List.filterMap_append.symm
  rw [htext] at hreceived
  have hstart : Source.start.Ready := ⟨⟨rfl, rfl⟩, rfl, rfl⟩
  obtain ⟨whole, others, hsplit, hwhole, hnext, hdispatched⟩ :=
    dispatched_of_prefix hstart _ hreceived
  obtain ⟨complete, rest, rfl, rfl, rfl⟩ := List.map_eq_append_iff.mp hsplit
  refine ⟨complete, rest, rfl, ?_, ?_, ?_⟩
  · rw [htext]
    exact hwhole
  · intro next hhead
    rw [htext, List.map_append]
    refine hnext _ ?_
    rw [List.head?_map, Option.mem_map]
    exact ⟨next, hhead, rfl⟩
  · rw [hdispatched, hmessages, Source.start, List.nil_append, List.map_map]
    exact List.map_congr_left fun sent _ => readNudge_message isoformat sent

theorem read_all (frames : List Yielded) :
    (Source.start.feed (frames.flatMap
      (Yielded.text isoformat))).dispatched.map readNudge =
      (nudgesOf frames).map fun sent => some (sent.tells isoformat) := by
  obtain ⟨complete, rest, rfl, hread⟩ :=
    read_received isoformat frames (List.prefix_refl _)
  cases rest with
  | nil =>
      rw [List.append_nil] at hread ⊢
      exact hread.read
  | cons next rest =>
      refine absurd ?_ (hread.incomplete next rfl)
      rw [← List.singleton_append (l := rest), ← List.append_assoc]
      exact (List.prefix_append (complete ++ [next]) rest).flatMap _

end Client

/-! ### The connections -/

/-- The nudge an act publishes. -/
def StreamAct.published : StreamAct S → Option Nudge
  | .publish publication => some publication.nudge
  | _ => none

def StreamAct.connects (s : S) : StreamAct S → Bool
  | .connect t _ => t = s
  | _ => false

/-- The nudges published since a client connected. -/
def publishedSince (s : S) (acts : List (StreamAct S)) : List Nudge :=
  (acts.dropWhile (!·.connects s)).filterMap StreamAct.published

/-- A connection and its queue: only while it has not ended does it have one,
and what it sent and what is unread were published since, in this order. -/
inductive StreamServed (acts : List (StreamAct S)) (s : S) :
    Option Connection → Option (List Nudge) → Prop where
  | absent (habsent : ∀ act ∈ acts, act.connects s = false) :
      StreamServed acts s none none
  | live {connection : Connection} {queue : List Nudge}
      (hconnected : ∃ act ∈ acts, act.connects s = true)
      (hstate : connection.state ≠ .ended)
      (horder : (nudgesOf connection.yielded ++ queue).Sublist
        (publishedSince s acts)) :
      StreamServed acts s (some connection) (some queue)
  | ended {connection : Connection}
      (hconnected : ∃ act ∈ acts, act.connects s = true)
      (hstate : connection.state = .ended)
      (horder : (nudgesOf connection.yielded).Sublist
        (publishedSince s acts)) :
      StreamServed acts s (some connection) none

section Server

variable {σ σ' : StreamServer S} {acts : List (StreamAct S)}
  {act : StreamAct S} {s : S}

theorem publishedSince_snoc (hconnected : ∃ act ∈ acts, act.connects s = true)
    (act : StreamAct S) :
    publishedSince s (acts ++ [act]) =
      publishedSince s acts ++ [act].filterMap StreamAct.published := by
  have hne : acts.dropWhile (!·.connects s) ≠ [] := by
    rw [ne_eq, List.dropWhile_eq_nil_iff]
    simpa using hconnected
  rw [publishedSince, publishedSince, List.dropWhile_append, if_neg (by simpa using hne),
    List.filterMap_append]

theorem connected_snoc (hconnected : ∃ act ∈ acts, act.connects s = true)
    (act : StreamAct S) : ∃ other ∈ acts ++ [act], other.connects s = true := by
  obtain ⟨other, hmem, hconnects⟩ := hconnected
  exact ⟨other, List.mem_append_left _ hmem, hconnects⟩

theorem StreamServed.snoc {connection : Option Connection}
    {queue : Option (List Nudge)} (hserved : StreamServed acts s connection queue)
    (act : StreamAct S) (hother : act.connects s = false) :
    StreamServed (acts ++ [act]) s connection queue := by
  cases hserved with
  | absent habsent =>
      refine .absent fun other hmem => ?_
      rcases List.mem_append.mp hmem with hold | hlast
      · exact habsent other hold
      · exact List.mem_singleton.mp hlast ▸ hother
  | live hconnected hstate horder =>
      refine .live (connected_snoc hconnected act) hstate ?_
      rw [publishedSince_snoc hconnected]
      exact horder.trans (List.sublist_append_left _ _)
  | ended hconnected hstate horder =>
      refine .ended (connected_snoc hconnected act) hstate ?_
      rw [publishedSince_snoc hconnected]
      exact horder.trans (List.sublist_append_left _ _)

theorem served_put {connection : Connection}
    (hothers : ∀ t, t ≠ s → StreamServed acts t (σ.connection t) (σ.hub.queue t))
    (hself : StreamServed acts s (some connection)
      (if connection.state = .ended then none else σ.hub.queue s)) (t : S) :
    StreamServed acts t ((σ.put s connection).connection t)
      ((σ.put s connection).hub.queue t) := by
  by_cases ht : t = s
  · subst ht
    rw [connection_put_self, queue_put_self]
    exact hself
  · rw [connection_put_of_ne σ s connection ht,
      queue_put_of_ne σ s connection ht]
    exact hothers t ht

/-- What a connection that has not ended is. -/
theorem StreamServed.of_live {connection : Connection} {queue : Option (List Nudge)}
    (hserved : StreamServed acts s (some connection) queue)
    (hstate : connection.state ≠ .ended) :
    ∃ unread, queue = some unread ∧
      (∃ act ∈ acts, act.connects s = true) ∧
      (nudgesOf connection.yielded ++ unread).Sublist
        (publishedSince s acts) := by
  cases hserved with
  | live hconnected _ horder => exact ⟨_, rfl, hconnected, horder⟩
  | ended _ hended _ => exact absurd hended hstate

theorem StreamServed.sublist {connection : Connection} {queue : Option (List Nudge)}
    (hserved : StreamServed acts s (some connection) queue) :
    (nudgesOf connection.yielded).Sublist (publishedSince s acts) := by
  cases hserved with
  | live _ _ horder => exact (List.sublist_append_left _ _).trans horder
  | ended _ _ horder => exact horder

/-- A connection that has not ended moves on without yielding a nudge. -/
theorem StreamServed.move {connection next : Connection}
    {queue : Option (List Nudge)}
    (hserved : StreamServed acts s (some connection) queue)
    (hstate : connection.state ≠ .ended)
    (hyielded : nudgesOf next.yielded = nudgesOf connection.yielded) :
    StreamServed acts s (some next)
      (if next.state = .ended then none else queue) := by
  obtain ⟨unread, rfl, hconnected, horder⟩ := hserved.of_live hstate
  rw [← hyielded] at horder
  split
  · next hended =>
      exact .ended hconnected hended
        ((List.sublist_append_left _ _).trans horder)
  · next hlive => exact .live hconnected hlive horder

theorem nudgesOf_snoc (frames : List Yielded) (frame : Yielded) :
    nudgesOf (frames ++ [frame]) = nudgesOf frames ++ nudgesOf [frame] :=
  List.filterMap_append

theorem nudgesOf_proceed (connection : Connection) (disconnected : Bool)
    (now : Instant) :
    nudgesOf (connection.proceed disconnected now).yielded =
      nudgesOf connection.yielded := by
  rw [Connection.proceed]
  split <;> rfl

theorem nudgesOf_heartbeat (connection : Connection) :
    nudgesOf (connection.yield .heartbeat).yielded =
      nudgesOf connection.yielded := by
  rw [Connection.yield, nudgesOf_snoc]
  exact List.append_nil _

theorem nudgesOf_nudge (connection : Connection) (nudge : Nudge) :
    nudgesOf (connection.yield (.nudge nudge)).yielded =
      nudgesOf connection.yielded ++ [nudge] := by
  rw [Connection.yield, nudgesOf_snoc]
  rfl

theorem getNowait_eq {queue rest : List Nudge} {nudge : Nudge}
    (hget : getNowait queue = some (nudge, rest)) : queue = nudge :: rest := by
  cases queue with
  | nil => cases hget
  | cons head tail =>
      cases hget
      rfl

theorem offer_sublist (maxsize : Nat) (queue : List Nudge) (nudge : Nudge) :
    (offer maxsize queue nudge).Sublist (queue ++ [nudge]) := by
  rcases lt_or_ge queue.length maxsize with hroom | hfull
  · rw [offer_of_room hroom]
  · rw [offer_of_full hfull]
    exact List.sublist_append_left _ _

theorem StreamServed.get {connection : Connection} {rest : List Nudge}
    {nudge : Nudge}
    (hserved : StreamServed acts s (some connection) (some (nudge :: rest)))
    (hstate : connection.state ≠ .ended) :
    StreamServed acts s (some (connection.yield (.nudge nudge)))
      (some rest) := by
  obtain ⟨unread, hunread, hconnected, horder⟩ := hserved.of_live hstate
  cases hunread
  refine .live hconnected (by simp [Connection.yield]) ?_
  rw [nudgesOf_nudge, List.append_assoc]
  exact horder

/-- The hub offers what it publishes to whoever is connected. -/
theorem StreamServed.publish {connection : Option Connection}
    {queue : Option (List Nudge)}
    (hserved : StreamServed acts s connection queue)
    (publication : Publication) :
    StreamServed (acts ++ [.publish publication]) s connection
      (queue.map fun queue =>
        offer subscriberQueueMaxsize queue publication.nudge) := by
  cases hserved with
  | absent habsent => exact (StreamServed.absent habsent).snoc _ rfl
  | live hconnected hstate horder =>
      refine .live (connected_snoc hconnected _) hstate ?_
      rw [publishedSince_snoc hconnected]
      refine ((offer_sublist _ _ _).append_left _).trans ?_
      rw [← List.append_assoc]
      exact horder.append_right _
  | ended hconnected hstate horder =>
      exact (StreamServed.ended hconnected hstate horder).snoc _ rfl

theorem StreamServed.step
    (hserved : ∀ s, StreamServed acts s (σ.connection s) (σ.hub.queue s))
    (hstep : StreamStep σ act σ') (t : S) :
    StreamServed (acts ++ [act]) t (σ'.connection t) (σ'.hub.queue t) := by
  cases hstep with
  | @connect s now hnow hnew =>
      by_cases ht : t = s
      · subst ht
        rw [EventHub.subscribe, queue_setQueue_self]
        simp only [Function.update_self]
        refine .live ⟨_, List.mem_append_right _ List.mem_cons_self, ?_⟩
          (by simp) (List.nil_sublist _)
        simp [StreamAct.connects]
      · rw [EventHub.subscribe, queue_setQueue_of_ne _ ht]
        simp only [Function.update_of_ne ht]
        exact (hserved t).snoc _ (decide_eq_false (Ne.symm ht))
  | @proceed s now connection disconnected hnow hconnection hstate =>
      refine served_put (fun u _ => (hserved u).snoc _ rfl) ?_ t
      have hself := (hserved s).snoc (.proceed s disconnected now) rfl
      rw [hconnection] at hself
      exact hself.move (by simp [hstate]) (nudgesOf_proceed _ _ _)
  | @get s now expiresAt connection queue rest nudge hnow hconnection hstate
      hqueue hget =>
      refine served_put (fun u hu => ?_) ?_ t
      · rw [queue_setQueue_of_ne _ hu]
        exact (hserved u).snoc _ rfl
      · have hself := (hserved s).snoc (.get s nudge now) rfl
        rw [hconnection, hqueue] at hself
        obtain rfl := getNowait_eq hget
        rw [queue_setQueue_self]
        exact hself.get (by simp [hstate])
  | @timeout s now expiresAt connection hnow hconnection hstate hexpired =>
      refine served_put (fun u _ => (hserved u).snoc _ rfl) ?_ t
      have hself := (hserved s).snoc (.timeout s now) rfl
      rw [hconnection] at hself
      exact hself.move (by simp [hstate]) (nudgesOf_heartbeat _)
  | @cancel s connection hconnection hstate =>
      refine served_put (fun u _ => (hserved u).snoc _ rfl) ?_ t
      have hself := (hserved s).snoc (.cancel s) rfl
      rw [hconnection] at hself
      exact hself.move hstate rfl
  | publish publication =>
      rw [queue_publish]
      exact (hserved t).publish publication

theorem streamServed_of_run {now : Instant}
    (hrun : Run StreamStep (.start now) acts σ) (s : S) :
    StreamServed acts s (σ.connection s) (σ.hub.queue s) := by
  refine hrun.labelled_invariant
    (fun acts σ => ∀ s, StreamServed acts s (σ.connection s) (σ.hub.queue s)) ?_
    (fun _ _ _ _ hserved hstep => StreamServed.step hserved hstep) s
  exact fun s => .absent fun act hmem => absurd hmem List.not_mem_nil

/-- A connection, or that it has ended; until then all that was sent or unread
is sent, or still unread, in the same order. -/
def Carries (s : S) (sent : List Nudge) (σ : StreamServer S) : Prop :=
  ∃ connection, σ.connection s = some connection ∧
    (connection.state = .ended ∨ ∃ queue later, σ.hub.queue s = some queue ∧
      nudgesOf connection.yielded ++ queue = sent ++ later)

theorem carries_put {sent : List Nudge} {t : S} {connection : Connection}
    (hother : s ≠ t → Carries s sent σ)
    (hself : s = t → connection.state = .ended ∨
      ∃ queue later, σ.hub.queue t = some queue ∧
        nudgesOf connection.yielded ++ queue = sent ++ later) :
    Carries s sent (σ.put t connection) := by
  by_cases hs : s = t
  · subst hs
    refine ⟨connection, connection_put_self σ s connection, ?_⟩
    by_cases hstate : connection.state = .ended
    · exact Or.inl hstate
    · rcases hself rfl with hended | hcarried
      · exact absurd hended hstate
      · rw [queue_put_self, if_neg hstate]
        exact Or.inr hcarried
  · obtain ⟨other, hconnection, hcarried⟩ := hother hs
    refine ⟨other, ?_, ?_⟩
    · rw [connection_put_of_ne σ t connection hs, hconnection]
    · rw [queue_put_of_ne σ t connection hs]
      exact hcarried

theorem Carries.move {sent : List Nudge} {t : S}
    {connection next : Connection} (hcarries : Carries s sent σ)
    (hconnection : σ.connection t = some connection)
    (hstate : connection.state ≠ .ended)
    (hyielded : nudgesOf next.yielded = nudgesOf connection.yielded) :
    Carries s sent (σ.put t next) := by
  refine carries_put (fun _ => hcarries) ?_
  rintro rfl
  obtain ⟨other, hother, hcarried⟩ := hcarries
  obtain rfl : other = connection :=
    Option.some.inj (hother.symm.trans hconnection)
  rcases hcarried with hended | ⟨queue, later, hqueue, hsent⟩
  · exact absurd hended hstate
  · exact Or.inr ⟨queue, later, hqueue, hyielded ▸ hsent⟩

/-- A connection that takes a nudge from its queue. -/
theorem Carries.get {sent rest : List Nudge} {t : S} {nudge : Nudge}
    {connection : Connection} (hcarries : Carries s sent σ)
    (hconnection : σ.connection t = some connection)
    (hstate : connection.state ≠ .ended)
    (hqueue : σ.hub.queue t = some (nudge :: rest)) :
    Carries s sent (StreamServer.put
      { σ with hub := σ.hub.setQueue t (some rest) } t
        (connection.yield (.nudge nudge))) := by
  obtain ⟨other, hother, hcarried⟩ := hcarries
  refine carries_put (fun hs => ⟨other, hother, ?_⟩) ?_
  · rw [queue_setQueue_of_ne _ hs]
    exact hcarried
  · rintro rfl
    obtain rfl : other = connection :=
      Option.some.inj (hother.symm.trans hconnection)
    rcases hcarried with hended | ⟨before, later, hbefore, hsent⟩
    · exact absurd hended hstate
    · obtain rfl : before = nudge :: rest :=
        Option.some.inj (hbefore.symm.trans hqueue)
      refine Or.inr ⟨rest, later, queue_setQueue_self _ _ _, ?_⟩
      rw [nudgesOf_nudge, List.append_assoc]
      exact hsent

omit [DecidableEq S] in
/-- What is published meanwhile comes later, or is dropped. -/
theorem Carries.publish {sent : List Nudge} (hcarries : Carries s sent σ)
    (publication : Publication) :
    Carries s sent { σ with hub := σ.hub.publish publication } := by
  obtain ⟨connection, hconnection, hended | ⟨queue, later, hqueue, hsent⟩⟩ :=
    hcarries
  · exact ⟨connection, hconnection, Or.inl hended⟩
  · refine ⟨connection, hconnection, Or.inr ?_⟩
    rw [queue_publish, hqueue, Option.map_some]
    rcases lt_or_ge queue.length subscriberQueueMaxsize with hroom | hfull
    · refine ⟨_, later ++ [publication.nudge], rfl, ?_⟩
      rw [offer_of_room hroom, ← List.append_assoc, hsent, List.append_assoc]
    · refine ⟨_, later, rfl, ?_⟩
      rw [offer_of_full hfull]
      exact hsent

theorem Carries.step {sent : List Nudge} (hcarries : Carries s sent σ)
    (hstep : StreamStep σ act σ') : Carries s sent σ' := by
  cases hstep with
  | @connect t now hnow hnew =>
      obtain ⟨connection, hconnection, hcarried⟩ := hcarries
      have hs : s ≠ t := by
        rintro rfl
        cases hconnection.symm.trans hnew
      refine ⟨connection, ?_, ?_⟩
      · simp only [Function.update_of_ne hs, hconnection]
      · rw [EventHub.subscribe, queue_setQueue_of_ne _ hs]
        exact hcarried
  | @proceed t now other disconnected hnow hother hstate =>
      exact Carries.move (σ := { σ with now := now }) hcarries hother
        (by simp [hstate]) (nudgesOf_proceed _ _ _)
  | @get t now expiresAt other queue rest nudge hnow hother hstate hqueue
      hget =>
      obtain rfl := getNowait_eq hget
      exact Carries.get (σ := { σ with now := now }) hcarries hother
        (by simp [hstate]) hqueue
  | @timeout t now expiresAt other hnow hother hstate hexpired =>
      exact Carries.move (σ := { σ with now := now }) hcarries hother
        (by simp [hstate]) (nudgesOf_heartbeat _)
  | @cancel t other hother hstate => exact hcarries.move hother hstate rfl
  | publish publication => exact hcarries.publish publication

end Server

section Lifetime

variable {σ σ' : StreamServer S} {acts : List (StreamAct S)}
  {act : StreamAct S} {s : S}

/-- A wait ends by the deadline, and within the heartbeat interval. -/
def Timed (σ : StreamServer S) : Prop :=
  ∀ s connection expiresAt, σ.connection s = some connection →
    connection.state = .waiting expiresAt →
      expiresAt ≤ connection.deadline ∧ expiresAt ≤ σ.now + heartbeatInterval

theorem timed_put {connection : Connection} (htimed : Timed σ)
    (hself : ∀ expiresAt, connection.state = .waiting expiresAt →
      expiresAt ≤ connection.deadline ∧
        expiresAt ≤ σ.now + heartbeatInterval) :
    Timed (σ.put s connection) := by
  intro t other expiresAt hother hstate
  by_cases ht : t = s
  · subst ht
    rw [connection_put_self] at hother
    cases hother
    exact hself expiresAt hstate
  · rw [connection_put_of_ne σ s connection ht] at hother
    exact htimed t other expiresAt hother hstate

omit [DecidableEq S] in
theorem Timed.later (htimed : Timed σ) {now : Instant} (hnow : σ.now ≤ now) :
    Timed { σ with now := now } := by
  intro t connection expiresAt hconnection hstate
  obtain ⟨hdeadline, hinterval⟩ :=
    htimed t connection expiresAt hconnection hstate
  exact ⟨hdeadline, hinterval.trans (Int.add_le_add_right hnow _)⟩

theorem Timed.step (htimed : Timed σ) (hstep : StreamStep σ act σ') :
    Timed σ' := by
  cases hstep with
  | @connect s now hnow hnew =>
      intro t connection expiresAt hconnection hstate
      by_cases ht : t = s
      · subst ht
        simp only [Function.update_self] at hconnection
        cases hconnection
        cases hstate
      · simp only [Function.update_of_ne ht] at hconnection
        exact htimed.later hnow t connection expiresAt hconnection hstate
  | @proceed s now connection disconnected hnow hconnection hstate =>
      refine timed_put (htimed.later hnow) fun expiresAt hwaiting => ?_
      unfold Connection.proceed at hwaiting ⊢
      simp only at hwaiting ⊢
      split at hwaiting
      · cases hwaiting
      · next hgoes =>
          rw [if_neg hgoes]
          cases hwaiting
          have hinterval := min_le_left heartbeatInterval
            (connection.deadline - now)
          have hremaining := min_le_right heartbeatInterval
            (connection.deadline - now)
          exact ⟨Int.add_le_of_le_sub_left hremaining,
            Int.add_le_add_left hinterval now⟩
  | get hnow hconnection hstate hqueue hget =>
      exact timed_put (σ := { σ with hub := _, now := _ })
        (htimed.later hnow) fun _ hwaiting => nomatch hwaiting
  | timeout hnow hconnection hstate hexpired =>
      exact timed_put (htimed.later hnow) fun _ hwaiting => nomatch hwaiting
  | cancel hconnection hstate =>
      exact timed_put htimed fun _ hwaiting => nomatch hwaiting
  | publish publication => exact htimed

/-- An act of one connection. -/
def StreamAct.turns (s : S) : StreamAct S → Bool
  | .proceed t _ _ | .get t _ _ | .timeout t _ | .cancel t => t = s
  | .connect .. | .publish _ => false

/-- The acts that are left to a connection past its deadline. -/
def Connection.turnsLeft (connection : Connection) : Nat :=
  match connection.state with
  | .top => 1
  | .waiting _ => 2
  | .ended => 0

/-- The frames that are left to it. -/
def Connection.framesLeft (connection : Connection) : Nat :=
  match connection.state with
  | .waiting _ => 1
  | .top | .ended => 0

/-- A connection past its deadline, with bounds for its turns and frames. -/
structure Overdue (s : S) (turns frames : Nat) (acts : List (StreamAct S))
    (σ : StreamServer S) (connection : Connection) : Prop where
  found : σ.connection s = some connection
  deadline : connection.deadline ≤ σ.now
  turns : acts.countP (·.turns s) + connection.turnsLeft ≤ turns
  frames : connection.yielded.length + connection.framesLeft ≤ frames

theorem proceed_overdue {connection : Connection} {now : Instant}
    (hdeadline : connection.deadline ≤ now) (disconnected : Bool) :
    connection.proceed disconnected now =
      { connection with state := .ended } := by
  have hremaining := Int.sub_nonpos_of_le hdeadline
  simp [Connection.proceed, hremaining]

/-- A turn of an overdue connection is one of those that were left. -/
theorem Overdue.turn {turns frames : Nat} {connection next : Connection}
    (hoverdue : Overdue s turns frames acts σ connection)
    (hnow : σ.now ≤ σ'.now) (hturns : act.turns s = true)
    (hdeadline : next.deadline = connection.deadline)
    (hturnsLeft : next.turnsLeft < connection.turnsLeft)
    (hframesLeft : next.yielded.length + next.framesLeft ≤
      connection.yielded.length + connection.framesLeft)
    (hnext : σ'.connection s = some next) :
    Overdue s turns frames (acts ++ [act]) σ' next := by
  refine ⟨hnext, hdeadline ▸ hoverdue.deadline.trans hnow, ?_,
    hframesLeft.trans hoverdue.frames⟩
  have hturn := hoverdue.turns
  rw [List.countP_append, List.countP_singleton, if_pos hturns]
  omega

theorem Overdue.rest {turns frames : Nat} {connection : Connection}
    (hoverdue : Overdue s turns frames acts σ connection)
    (hnow : σ.now ≤ σ'.now) (hturns : act.turns s = false)
    (hnext : σ'.connection s = σ.connection s) :
    Overdue s turns frames (acts ++ [act]) σ' connection := by
  refine ⟨hnext.trans hoverdue.found, hoverdue.deadline.trans hnow, ?_,
    hoverdue.frames⟩
  rw [List.countP_append, List.countP_singleton, if_neg (by simp [hturns])]
  exact hoverdue.turns

/-- A connection that moves on is the overdue one, or another. -/
theorem Overdue.put {turns frames : Nat} {connection other next : Connection}
    {t : S} (hoverdue : Overdue s turns frames acts σ connection)
    (hnow : σ.now ≤ σ'.now) (hact : act.turns s = decide (t = s))
    (hother : σ.connection t = some other)
    (hconnections : ∀ u, u ≠ t → σ'.connection u = σ.connection u)
    (hput : σ'.connection t = some next)
    (hmoves : other.deadline ≤ σ'.now → next.deadline = other.deadline ∧
      next.turnsLeft < other.turnsLeft ∧
      next.yielded.length + next.framesLeft ≤
        other.yielded.length + other.framesLeft) :
    ∃ next, Overdue s turns frames (acts ++ [act]) σ' next := by
  by_cases ht : t = s
  · subst ht
    obtain rfl : connection = other :=
      Option.some.inj (hoverdue.found.symm.trans hother)
    obtain ⟨hdeadline, hturnsLeft, hframesLeft⟩ :=
      hmoves (hoverdue.deadline.trans hnow)
    exact ⟨next, hoverdue.turn hnow (by simpa using hact) hdeadline hturnsLeft
      hframesLeft hput⟩
  · exact ⟨connection, hoverdue.rest hnow (by simpa [ht] using hact)
      (hconnections s (Ne.symm ht))⟩

theorem Overdue.step {turns frames : Nat} {connection : Connection}
    (hoverdue : Overdue s turns frames acts σ connection)
    (hstep : StreamStep σ act σ') :
    ∃ next, Overdue s turns frames (acts ++ [act]) σ' next := by
  cases hstep with
  | @connect t now hnow hnew =>
      have ht : s ≠ t := by
        rintro rfl
        cases hoverdue.found.symm.trans hnew
      exact ⟨connection, hoverdue.rest hnow rfl
        (Function.update_of_ne ht _ _)⟩
  | @proceed t now other disconnected hnow hother hstate =>
      refine hoverdue.put hnow rfl hother
        (fun u hu => connection_put_of_ne _ t _ hu) (connection_put_self _ t _)
        fun hdeadline => ?_
      have hlate : other.deadline ≤ now := hdeadline
      rw [proceed_overdue hlate]
      simp [Connection.turnsLeft, Connection.framesLeft, hstate]
  | @get t now expiresAt other queue rest nudge hnow hother hstate hqueue
      hget =>
      refine hoverdue.put hnow rfl hother
        (fun u hu => connection_put_of_ne _ t _ hu) (connection_put_self _ t _)
        fun _ => ?_
      simp [Connection.turnsLeft, Connection.framesLeft, Connection.yield,
        hstate]
  | @timeout t now expiresAt other hnow hother hstate hexpired =>
      refine hoverdue.put hnow rfl hother
        (fun u hu => connection_put_of_ne _ t _ hu) (connection_put_self _ t _)
        fun _ => ?_
      simp [Connection.turnsLeft, Connection.framesLeft, Connection.yield,
        hstate]
  | @cancel t other hother hstate =>
      refine hoverdue.put (le_refl _) rfl hother
        (fun u hu => connection_put_of_ne _ t _ hu) (connection_put_self _ t _)
        fun _ => ?_
      cases hcase : other.state with
      | top => simp [Connection.turnsLeft, Connection.framesLeft, hcase]
      | waiting _ => simp [Connection.turnsLeft, Connection.framesLeft, hcase]
      | ended => exact absurd hcase hstate
  | publish publication =>
      exact ⟨connection, hoverdue.rest (le_refl _) rfl rfl⟩

end Lifetime

/-- Over every run of an instance and wherever its text was cut: a client has
read exactly the nudges of the frames that came through whole, each with its
event, time and scope.  They were published since it connected, and in this
order. -/
theorem nudges_read_back (isoformat : Instant → String) {now : Instant}
    {acts : List (StreamAct S)} {σ : StreamServer S}
    (hrun : Run StreamStep (.start now) acts σ) {s : S}
    {connection : Connection} (hconnection : σ.connection s = some connection)
    {received : List Char}
    (hreceived :
      received <+: connection.yielded.flatMap (Yielded.text isoformat)) :
    ∃ complete rest, connection.yielded = complete ++ rest ∧
      ReadBack isoformat complete rest received ∧
      (nudgesOf complete).Sublist (publishedSince s acts) := by
  obtain ⟨complete, rest, hsplit, hread⟩ :=
    read_received isoformat connection.yielded hreceived
  refine ⟨complete, rest, hsplit, hread, ?_⟩
  have hserved := streamServed_of_run hrun s
  rw [hconnection] at hserved
  have horder := hserved.sublist
  rw [hsplit] at horder
  refine List.Sublist.trans ?_ horder
  exact (List.sublist_append_left complete rest).filterMap _

/-- A nudge that is published while a connection has room for it has been read
by its client once its queue is empty and its text has come through, whatever
happens in between, unless the connection ended first. -/
theorem published_nudge_read (isoformat : Instant → String)
    {σ σ' : StreamServer S} {acts : List (StreamAct S)} {s : S}
    {connection connection' : Connection} {queue : List Nudge}
    (hconnection : σ.connection s = some connection)
    (hqueue : σ.hub.queue s = some queue)
    (hroom : queue.length < subscriberQueueMaxsize) (publication : Publication)
    (hrun : Run StreamStep { σ with hub := σ.hub.publish publication } acts σ')
    (hconnection' : σ'.connection s = some connection')
    (hlive : connection'.state ≠ .ended)
    (hempty : σ'.hub.queue s = some []) :
    some (publication.nudge.tells isoformat) ∈
      (Source.start.feed (connection'.yielded.flatMap
        (Yielded.text isoformat))).dispatched.map readNudge := by
  have hstart : Carries s
      (nudgesOf connection.yielded ++ queue ++ [publication.nudge])
      { σ with hub := σ.hub.publish publication } := by
    refine ⟨connection, hconnection, Or.inr
      ⟨offer subscriberQueueMaxsize queue publication.nudge, [], ?_, ?_⟩⟩
    · rw [queue_publish, hqueue, Option.map_some]
    · rw [offer_of_room hroom, List.append_nil, List.append_assoc]
  obtain ⟨other, hother, hended | ⟨unread, later, hunread, hsent⟩⟩ :=
    hrun.invariant (Carries s _) hstart
      fun _ _ _ hcarries hstep => hcarries.step hstep
  · obtain rfl := Option.some.inj (hother.symm.trans hconnection')
    exact absurd hended hlive
  · obtain rfl := Option.some.inj (hother.symm.trans hconnection')
    obtain rfl := Option.some.inj (hunread.symm.trans hempty)
    rw [read_all, List.mem_map]
    refine ⟨publication.nudge, ?_, rfl⟩
    rw [← List.append_nil (nudgesOf other.yielded), hsent]
    simp

/-- Over every run of an instance: its queues are those of the connections that
have not ended; a wait ends by the deadline and within the heartbeat interval;
and once its deadline is past a connection takes two turns more at most, and
yields one frame at most. -/
theorem connections_end {now : Instant} {acts : List (StreamAct S)}
    {σ : StreamServer S} (hrun : Run StreamStep (.start now) acts σ) :
    (∀ s, (σ.hub.queue s).isSome ↔ ∃ connection,
      σ.connection s = some connection ∧ connection.state ≠ .ended) ∧
    Timed σ ∧
    ∀ s connection, σ.connection s = some connection →
      connection.deadline ≤ σ.now → ∀ later σ', Run StreamStep σ later σ' →
        later.countP (·.turns s) ≤ 2 ∧
          ∃ connection', σ'.connection s = some connection' ∧
            connection'.yielded.length ≤ connection.yielded.length + 1 := by
  refine ⟨fun s => ?_, ?_, fun s connection hconnection hdeadline later σ'
    hlater => ?_⟩
  · have hserved := streamServed_of_run hrun s
    generalize σ.connection s = connection at hserved ⊢
    generalize σ.hub.queue s = queue at hserved ⊢
    cases hserved with
    | absent _ => simp
    | live _ hstate _ => simp [hstate]
    | ended _ hstate _ => simp [hstate]
  · refine hrun.invariant Timed ?_ fun _ _ _ htimed hstep => htimed.step hstep
    intro s connection expiresAt hconnection
    cases hconnection
  · have hstart : Overdue s 2 (connection.yielded.length + 1) [] σ connection := by
      refine ⟨hconnection, hdeadline, ?_, ?_⟩
      · unfold Connection.turnsLeft
        split <;> simp
      · unfold Connection.framesLeft
        split <;> simp
    obtain ⟨connection', hoverdue⟩ := hlater.labelled_invariant
      (fun later σ' => ∃ connection', Overdue s 2
        (connection.yielded.length + 1) later σ' connection')
      ⟨connection, hstart⟩
      fun _ _ _ _ ⟨_, hoverdue⟩ hstep => hoverdue.step hstep
    have hturns := hoverdue.turns
    have hframes := hoverdue.frames
    exact ⟨by omega, connection', hoverdue.found, by omega⟩

namespace StreamWitness

def standings : Publication := ⟨.standings, some 2, some [7], 3⟩

def isoformat : Instant → String := fun _ => "2026-01-01T00:00:00+00:00"

def opened : Connection := ⟨0 + maxStreamLifetime, [], .top⟩

/-- A client has connected, and its loop waits. -/
def waiting : StreamServer Unit :=
  StreamServer.put
    { hub := (StreamServer.start 0).hub.subscribe ()
      now := 1
      connection := Function.update (StreamServer.start 0).connection ()
        (some opened) } ()
    (opened.proceed false 1)

/-- A nudge has been published, and yielded. -/
def sent : StreamServer Unit :=
  StreamServer.put
    { waiting with
      hub := (waiting.hub.publish standings).setQueue () (some [])
      now := 3 } ()
    ((opened.proceed false 1).yield (.nudge standings.nudge))

theorem run_waiting :
    Run StreamStep (StreamServer.start 0)
      [.connect () 0, .proceed () false 1] waiting :=
  (Run.refl.snoc (.connect (le_refl _) rfl)).snoc
    (.proceed false (by decide) rfl rfl)

theorem run_sent :
    Run StreamStep { waiting with hub := waiting.hub.publish standings }
      [.get () standings.nudge 3] sent :=
  have hqueue : (waiting.hub.publish standings).queue () =
      some [standings.nudge] := rfl
  Run.refl.snoc (.get (by decide) rfl rfl hqueue rfl)

theorem run_all :
    Run StreamStep (StreamServer.start 0)
      [.connect () 0, .proceed () false 1, .publish standings,
        .get () standings.nudge 3] sent :=
  (run_waiting.snoc (.publish standings)).append run_sent

/-- The wait has ended at the deadline, with a heartbeat. -/
def overdue : StreamServer Unit :=
  StreamServer.put { waiting with now := maxStreamLifetime } ()
    ((opened.proceed false 1).yield .heartbeat)

theorem run_overdue :
    Run StreamStep (StreamServer.start 0)
      [.connect () 0, .proceed () false 1, .timeout () maxStreamLifetime]
      overdue :=
  run_waiting.snoc (.timeout (by decide) rfl rfl (by decide))

end StreamWitness

open StreamWitness in
/-- A nudge of which all has come through. -/
theorem nudges_read_back_sent :
    ∃ complete rest, [Yielded.nudge standings.nudge] = complete ++ rest ∧
      ReadBack isoformat complete rest
        (formatNudge isoformat standings.nudge) ∧
      (nudgesOf complete).Sublist [standings.nudge] :=
  nudges_read_back isoformat run_all (s := ()) rfl
    (List.prefix_append (formatNudge isoformat standings.nudge) [])

open StreamWitness in
/-- The nudge was published while the client's queue was empty. -/
theorem published_nudge_read_sent :
    some (standings.nudge.tells isoformat) ∈
      (Source.start.feed ([Yielded.nudge standings.nudge].flatMap
        (Yielded.text isoformat))).dispatched.map readNudge :=
  @published_nudge_read _ _ isoformat waiting sent _ () _ _ [] rfl rfl
    (by decide) standings run_sent rfl (by decide) rfl

open StreamWitness in
/-- At its deadline the client still has its queue, and is sent one frame more
at most. -/
theorem connections_end_overdue :
    ((overdue.hub.queue ()).isSome ↔ ∃ connection,
      overdue.connection () = some connection ∧ connection.state ≠ .ended) ∧
    Timed overdue ∧
    ∀ later σ', Run StreamStep overdue later σ' →
      later.countP (·.turns ()) ≤ 2 ∧
        ∃ connection', σ'.connection () = some connection' ∧
          connection'.yielded.length ≤ 2 := by
  obtain ⟨hqueues, htimed, hends⟩ := connections_end run_overdue
  exact ⟨hqueues (), htimed, hends () _ rfl (by decide)⟩

end LiveStandings
