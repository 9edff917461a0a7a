/-
The SSE hub of an api instance.  Every connection has a queue of its own, one
for all events and tournaments; a nudge that finds it full is dropped.
-/
import LiveStandings.Events
import LiveStandings.Library.BoundedQueue
import LiveStandings.Library.Runs
import Mathlib.Logic.Function.Basic

namespace LiveStandings

open BoundedQueue Runs

universe u

variable {S : Type u}

/-- `_SUBSCRIBER_QUEUE_MAXSIZE`. -/
def subscriberQueueMaxsize : Nat := 16

/-- `EventHub`: the queue of unread nudges of each subscriber, oldest first. -/
structure EventHub (S : Type u) where
  queue : S → Option (List Nudge)

def EventHub.empty : EventHub S := ⟨fun _ => none⟩

/-- The hub with another queue for one subscriber, or none. -/
def EventHub.setQueue [DecidableEq S] (hub : EventHub S) (s : S)
    (queue : Option (List Nudge)) : EventHub S :=
  ⟨Function.update hub.queue s queue⟩

/-- `EventHub.subscribe`. -/
def EventHub.subscribe [DecidableEq S] (hub : EventHub S) (s : S) :
    EventHub S :=
  hub.setQueue s (some [])

/-- `EventHub.unsubscribe`. -/
def EventHub.unsubscribe [DecidableEq S] (hub : EventHub S) (s : S) :
    EventHub S :=
  hub.setQueue s none

/-- The arguments of `EventHub.publish`, and the time it is called at. -/
structure Publication where
  event : EventType
  polledAt : Option Instant
  tournamentIds : Option (List Int)
  now : Instant
deriving Repr, DecidableEq

def Publication.nudge (publication : Publication) : Nudge where
  event := publication.event
  polledAt := publication.polledAt.getD publication.now
  tournamentIds := publication.tournamentIds

/-- `EventHub.publish`: a full queue drops the nudge. -/
def EventHub.publish (hub : EventHub S) (publication : Publication) :
    EventHub S :=
  ⟨fun s => (hub.queue s).map fun queue =>
    offer subscriberQueueMaxsize queue publication.nudge⟩

/-- What happens to a hub; a read carries the nudge it took. -/
inductive HubAct (S : Type u) where
  | subscribe (s : S)
  | unsubscribe (s : S)
  | publish (publication : Publication)
  | get (s : S) (nudge : Nudge)

/-- A subscriber gets its nudges one by one, whenever it likes. -/
inductive HubStep [DecidableEq S] :
    EventHub S → HubAct S → EventHub S → Prop where
  | subscribe (hub : EventHub S) (s : S) (hnew : hub.queue s = none) :
      HubStep hub (.subscribe s) (hub.subscribe s)
  | unsubscribe (hub : EventHub S) (s : S) :
      HubStep hub (.unsubscribe s) (hub.unsubscribe s)
  | publish (hub : EventHub S) (publication : Publication) :
      HubStep hub (.publish publication) (hub.publish publication)
  | get (hub : EventHub S) (s : S) (queue rest : List Nudge) (nudge : Nudge)
      (hqueue : hub.queue s = some queue)
      (hget : getNowait queue = some (nudge, rest)) :
      HubStep hub (.get s nudge) (hub.setQueue s (some rest))

/-- The scope of a nudge names a tournament, or every tournament. -/
def Concerns (tournamentIds : Option (List Int)) (tournamentId : Int) : Prop :=
  ∀ ids, tournamentIds = some ids → tournamentId ∈ ids

instance (tournamentIds : Option (List Int)) (tournamentId : Int) :
    Decidable (Concerns tournamentIds tournamentId) :=
  match tournamentIds with
  | none => .isTrue fun _ hids => nomatch hids
  | some ids => decidable_of_iff (tournamentId ∈ ids) (by simp [Concerns])

/-- A nudge of an event that concerns a tournament. -/
def Nudge.Covers (event : EventType) (tournamentId : Int) (nudge : Nudge) :
    Prop :=
  nudge.event = event ∧ Concerns nudge.tournamentIds tournamentId

instance (event : EventType) (tournamentId : Int) (nudge : Nudge) :
    Decidable (nudge.Covers event tournamentId) :=
  inferInstanceAs (Decidable (_ ∧ _))

/-- Draining a queue takes these nudges out of it, in this order. -/
def Drains [DecidableEq S] (hub : EventHub S) (s : S) (nudges : List Nudge) :
    Prop :=
  ∃ hub', Run HubStep hub (nudges.map (HubAct.get s)) hub' ∧
    hub'.queue s = some []

/-- The room of the queues was kept to. -/
def EventHub.Bounded (hub : EventHub S) : Prop :=
  ∀ s queue, hub.queue s = some queue → queue.length ≤ subscriberQueueMaxsize

theorem queue_publish (hub : EventHub S) (publication : Publication) (s : S) :
    (hub.publish publication).queue s = (hub.queue s).map fun queue =>
      offer subscriberQueueMaxsize queue publication.nudge :=
  rfl

section Hub

variable [DecidableEq S] {hub hub' : EventHub S}

@[simp] theorem queue_setQueue_self (hub : EventHub S) (s : S)
    (queue : Option (List Nudge)) : (hub.setQueue s queue).queue s = queue := by
  simp [EventHub.setQueue]

theorem queue_setQueue_of_ne (hub : EventHub S) {s t : S} (hne : t ≠ s)
    (queue : Option (List Nudge)) :
    (hub.setQueue s queue).queue t = hub.queue t := by
  simp [EventHub.setQueue, hne]

theorem EventHub.Bounded.setQueue (hbounded : hub.Bounded) (s : S)
    {queue : Option (List Nudge)}
    (hqueue : ∀ unread ∈ queue, unread.length ≤ subscriberQueueMaxsize) :
    (hub.setQueue s queue).Bounded := by
  intro t unread hunread
  by_cases ht : t = s
  · subst ht
    rw [queue_setQueue_self] at hunread
    exact hqueue unread hunread
  · rw [queue_setQueue_of_ne hub ht] at hunread
    exact hbounded t unread hunread

theorem HubStep.bounded {act : HubAct S} (hbounded : hub.Bounded)
    (hstep : HubStep hub act hub') : hub'.Bounded := by
  cases hstep with
  | subscribe s _ => exact hbounded.setQueue s (by simp)
  | unsubscribe s => exact hbounded.setQueue s (by simp)
  | publish publication =>
      intro s queue hqueue
      obtain ⟨before, hbefore, rfl⟩ := Option.map_eq_some_iff.mp hqueue
      exact length_offer_le (hbounded s before hbefore) publication.nudge
  | get s queue rest nudge hqueue hget =>
      have hrest := length_getNowait_le (hbounded s queue hqueue) hget
      exact hbounded.setQueue s (by simpa using hrest)

theorem bounded_of_run {acts : List (HubAct S)}
    (hrun : Run HubStep .empty acts hub) : hub.Bounded :=
  hrun.invariant EventHub.Bounded (fun _ _ hqueue => nomatch hqueue)
    fun _ _ _ hbounded hstep => hstep.bounded hbounded

theorem drains_queue {s : S} {queue : List Nudge}
    (hqueue : hub.queue s = some queue) : Drains hub s queue := by
  induction queue generalizing hub with
  | nil => exact ⟨hub, .refl, hqueue⟩
  | cons nudge rest ih =>
      have hget : HubStep hub (.get s nudge) (hub.setQueue s (some rest)) :=
        .get hub s _ rest nudge hqueue rfl
      obtain ⟨hub', hrun, hempty⟩ :=
        ih (queue_setQueue_self hub s (some rest))
      exact ⟨hub', Run.head hget hrun, hempty⟩

end Hub

/-- A nudge is enqueued, unless the queue is full.  So draining a queue after a
publish yields a nudge of the published event that covers a tournament it
concerns, unless the queue holds sixteen unread nudges that all miss one or
the other. -/
theorem dropped_only_when_full [DecidableEq S] {acts : List (HubAct S)}
    {hub : EventHub S} (hrun : Run HubStep .empty acts hub) {s : S}
    {queue : List Nudge} (hqueue : hub.queue s = some queue)
    (publication : Publication) {tournamentId : Int}
    (hconcerns : Concerns publication.tournamentIds tournamentId) :
    ∃ queue', (hub.publish publication).queue s = some queue' ∧
      (queue' = queue ++ [publication.nudge] ∨
        queue' = queue ∧ queue.length = subscriberQueueMaxsize) ∧
      Drains (hub.publish publication) s queue' ∧
      ((∃ unread ∈ queue', unread.Covers publication.event tournamentId) ↔
        ¬(queue.length = subscriberQueueMaxsize ∧ ∀ unread ∈ queue,
          ¬unread.Covers publication.event tournamentId)) := by
  have hle := bounded_of_run hrun s queue hqueue
  have hpublished : (hub.publish publication).queue s =
      some (offer subscriberQueueMaxsize queue publication.nudge) := by
    rw [queue_publish, hqueue, Option.map_some]
  refine ⟨_, hpublished, ?_, drains_queue hpublished, ?_⟩
  · rcases lt_or_eq_of_le hle with hroom | hfull
    · exact Or.inl (offer_of_room hroom publication.nudge)
    · exact Or.inr ⟨offer_of_full hfull.ge publication.nudge, hfull⟩
  · exact exists_mem_offer_iff
      (fun nudge : Nudge => nudge.Covers publication.event tournamentId) hle
      ⟨rfl, hconcerns⟩

namespace HubWitness

def live : Publication := ⟨.live, none, none, 1⟩

def standings : Publication := ⟨.standings, some 2, some [7], 3⟩

/-- A subscriber that has read nothing of `n` live nudges. -/
def unread : Nat → EventHub Unit
  | 0 => EventHub.empty.subscribe ()
  | n + 1 => (unread n).publish live

theorem run_unread (n : Nat) :
    ∃ acts, Run HubStep .empty acts (unread n) := by
  induction n with
  | zero => exact ⟨_, Run.single (.subscribe .empty () rfl)⟩
  | succ n ih =>
      obtain ⟨acts, hrun⟩ := ih
      exact ⟨_, hrun.snoc (.publish (unread n) live)⟩

end HubWitness

open HubWitness in
/-- With fifteen live nudges unread, one about the standings is enqueued. -/
theorem dropped_only_when_full_fifteen :
    ∃ queue', ((unread 15).publish standings).queue () = some queue' ∧
      Drains ((unread 15).publish standings) () queue' ∧
      ∃ nudge ∈ queue', nudge.Covers .standings 7 := by
  obtain ⟨acts, hrun⟩ := run_unread 15
  have hunread : (unread 15).queue () = some (List.replicate 15 live.nudge) := by
    decide
  have hconcerns : Concerns standings.tournamentIds 7 := by decide
  obtain ⟨queue', hqueue, _, hdrains, hcovers⟩ :=
    dropped_only_when_full hrun hunread standings hconcerns
  exact ⟨queue', hqueue, hdrains, hcovers.mpr (by decide)⟩

open HubWitness in
/-- Sixteen unread live nudges keep out one about the standings, and nothing
in the queue stands in for it. -/
theorem standings_nudge_lost :
    ¬ ∀ (acts : List (HubAct Unit)) (hub : EventHub Unit) (s : Unit)
      (queue : List Nudge), Run HubStep .empty acts hub →
        hub.queue s = some queue → ∀ (publication : Publication)
          (tournamentId : Int),
          Concerns publication.tournamentIds tournamentId →
            ∃ queue', (hub.publish publication).queue s = some queue' ∧
              (queue' = queue ++ [publication.nudge] ∨
                ∃ unread ∈ queue,
                  unread.Covers publication.event tournamentId) := by
  intro hharmless
  obtain ⟨acts, hrun⟩ := run_unread 16
  obtain ⟨queue', hqueue, hcase⟩ := hharmless acts (unread 16) ()
    (List.replicate 16 live.nudge) hrun (by decide) standings 7 (by decide)
  have hdropped : ((unread 16).publish standings).queue () =
      some (List.replicate 16 live.nudge) := by decide
  cases hdropped.symm.trans hqueue
  revert hcase
  decide

end LiveStandings
