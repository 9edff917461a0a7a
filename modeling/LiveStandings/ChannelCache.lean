/-
The channels of the YouTube client.  A ref is resolved when it first comes up,
and what came of that is kept as long as the process lives, a failure like an
answer.
-/
import LiveStandings.BroadcastClients

namespace LiveStandings

open KeyedTable PyJson InvertedIndex Runs

variable {W : Type}

/-- The YouTube Data API as a client meets it.  A failed request counts as
nothing found; an error is an answer that cannot be read. -/
structure YouTubeService (W : Type) where
  channels : String → String → W → Except CycleError (Option String) × W
  search : String → W → Except CycleError (Option (Option String)) × W

/-- `YouTubeLiveClient`: its `_channel_id_cache`, and the world it is in. -/
structure YouTubeClient (W : Type) where
  cache : Dict (String × String) (Option String)
  world : W

section YouTube

variable (service : YouTubeService W)

/-- `YouTubeLiveClient._resolve_channel_id`, with its cache. -/
def resolveCached (ref : String × String) :
    ClientCall (YouTubeClient W) (Option String) := fun client =>
  match client.cache.get? ref with
  | some channelId => (.ok channelId, client)
  | none =>
      if ref.1 = "channel_id" then
        (.ok (some ref.2),
          { client with cache := client.cache.set ref (some ref.2) })
      else
        let param := if ref.1 = "handle" then "forHandle" else "forUsername"
        match service.channels param ref.2 client.world with
        | (.error error, world) => (.error error, { client with world := world })
        | (.ok channelId, world) =>
            (.ok channelId, {
              cache := client.cache.set ref channelId
              world := world })

/-- `YouTubeLiveClient._live_meta`. -/
def searchLive (channelId : String) :
    ClientCall (YouTubeClient W) (Option LiveStreamMeta) := fun client =>
  let (answer, world) := service.search channelId client.world
  (answer.map (Option.map fun title => ⟨textOrNone title, none⟩),
    { client with world := world })

/-- The loop of `YouTubeLiveClient.get_live_refs`. -/
def liveRefs (live : OrderedDict (String × String) LiveStreamMeta) :
    List (String × String) → ClientCall (YouTubeClient W)
      (OrderedDict (String × String) LiveStreamMeta)
  | [] => fun client => (.ok live, client)
  | ref :: refs =>
      (resolveCached service ref).andThen fun channelId =>
        match channelId with
        | none => liveRefs live refs
        | some channelId =>
            (searchLive service channelId).andThen fun found =>
              match found with
              | none => liveRefs live refs
              | some value => liveRefs (live.overwrite (ref, value)) refs

/-- `YouTubeLiveClient.get_live_refs`, with its cache and requests. -/
def getLiveRefsFrom (refs : List (String × String)) :
    ClientCall (YouTubeClient W)
      (OrderedDict (String × String) LiveStreamMeta) :=
  liveRefs service Table.empty refs

/-- A poller's cycles and how they ended, and the world going on. -/
inductive YouTubeAct (W : Type) where
  | cycle (refs : List (String × String))
      (outcome : Except CycleError (OrderedDict (String × String)
        LiveStreamMeta))
  | elapse (world : W)

inductive YouTubeStep :
    YouTubeClient W → YouTubeAct W → YouTubeClient W → Prop where
  | cycle (client : YouTubeClient W) (refs : List (String × String)) :
      YouTubeStep client (.cycle refs (getLiveRefsFrom service refs client).1)
        (getLiveRefsFrom service refs client).2
  | elapse (client : YouTubeClient W) (world : W) :
      YouTubeStep client (.elapse world) { client with world := world }

end YouTube

section Settled

variable {service : YouTubeService W} {client client' : YouTubeClient W}
  {ref : String × String} {live : OrderedDict (String × String) LiveStreamMeta}

/-- What one cache knows another knows too. -/
def Knows (client client' : YouTubeClient W) : Prop :=
  ∀ ref channelId, client.cache.get? ref = some channelId →
    client'.cache.get? ref = some channelId

theorem Knows.trans {client'' : YouTubeClient W} (hfirst : Knows client client')
    (hsecond : Knows client' client'') : Knows client client'' :=
  fun ref channelId hcached => hsecond ref channelId (hfirst ref channelId hcached)

theorem knows_set (hmiss : client.cache.get? ref = none)
    (channelId : Option String) (world : W) :
    Knows client ⟨client.cache.set ref channelId, world⟩ := by
  intro other found hcached
  rw [Dict.get?_set]
  by_cases hother : other = ref
  · subst hother
    cases hcached.symm.trans hmiss
  · rw [if_neg hother]
    exact hcached

theorem resolveCached_knows (ref : String × String) :
    Knows client (resolveCached service ref client).2 ∧
      ∀ channelId, (resolveCached service ref client).1 = .ok channelId →
        (resolveCached service ref client).2.cache.get? ref =
          some channelId := by
  unfold resolveCached
  split
  · next channelId hcached =>
      exact ⟨fun _ _ hknown => hknown, fun _ hok => by cases hok; exact hcached⟩
  · next hmiss =>
      split
      · refine ⟨knows_set hmiss _ _, fun _ hok => ?_⟩
        cases hok
        rw [Dict.get?_set, if_pos rfl]
      · simp only
        split
        · refine ⟨fun _ _ hknown => hknown, fun _ hok => ?_⟩
          cases hok
        · refine ⟨knows_set hmiss _ _, fun _ hok => ?_⟩
          cases hok
          rw [Dict.get?_set, if_pos rfl]

/-- Every ref that is live has a channel. -/
def Channelled (live : OrderedDict (String × String) LiveStreamMeta)
    (client : YouTubeClient W) : Prop :=
  ∀ ref value, get? live ref = some value →
    ∃ channelId, client.cache.get? ref = some (some channelId)

theorem Channelled.mono (hchannelled : Channelled live client)
    (hknows : Knows client client') : Channelled live client' := by
  intro ref value hlive
  obtain ⟨channelId, hcached⟩ := hchannelled ref value hlive
  exact ⟨channelId, hknows ref _ hcached⟩

theorem searchLive_knows (channelId : String) :
    Knows client (searchLive service channelId client).2 :=
  fun _ _ hknown => hknown

/-- What a turn leaves is a start for the next ones. -/
structure Settles (client client' : YouTubeClient W)
    (outcome : Except CycleError (OrderedDict (String × String)
      LiveStreamMeta)) (refs : List (String × String)) : Prop where
  knows : Knows client client'
  live : ∀ live', outcome = .ok live' → Channelled live' client'
  cached : ∀ live', outcome = .ok live' → ∀ ref ∈ refs,
    (client'.cache.get? ref).isSome

theorem Settles.failed {refs : List (String × String)}
    (hknows : Knows client client') (error : CycleError) :
    Settles client client' (.error error) refs := by
  refine ⟨hknows, fun _ hok => ?_, fun _ hok => ?_⟩
  · cases hok
  · cases hok

theorem Settles.cons {middle : YouTubeClient W}
    {outcome : Except CycleError (OrderedDict (String × String)
      LiveStreamMeta)} {refs : List (String × String)}
    {channelId : Option String} (hknows : Knows client middle)
    (hcached : middle.cache.get? ref = some channelId)
    (hrest : Settles middle client' outcome refs) :
    Settles client client' outcome (ref :: refs) := by
  refine ⟨hknows.trans hrest.knows, hrest.live, fun live' hok other hother => ?_⟩
  rcases List.mem_cons.mp hother with rfl | hmem
  · rw [hrest.knows _ _ hcached]
    rfl
  · exact hrest.cached live' hok other hmem

theorem channelled_overwrite {channelId : String}
    (hchannelled : Channelled live client)
    (hcached : client.cache.get? ref = some (some channelId))
    (value : LiveStreamMeta) :
    Channelled (live.overwrite (ref, value)) client := by
  intro other found hlive
  rw [get?, Table.find?_overwrite] at hlive
  by_cases hother : other = ref
  · subst hother
    exact ⟨channelId, hcached⟩
  · rw [if_neg (Ne.symm hother)] at hlive
    exact hchannelled other found hlive

theorem liveRefs_settles (refs : List (String × String))
    (hchannelled : Channelled live client) :
    Settles client (liveRefs service live refs client).2
      (liveRefs service live refs client).1 refs := by
  induction refs generalizing live client with
  | nil =>
      refine ⟨fun _ _ hknown => hknown, fun live' hok => ?_, ?_⟩
      · cases hok
        exact hchannelled
      · exact fun _ _ ref hmem => absurd hmem List.not_mem_nil
  | cons ref refs ih =>
      obtain ⟨hknows, hcached⟩ :=
        @resolveCached_knows _ service client ref
      rw [liveRefs, ClientCall.andThen]
      rcases hresolved : resolveCached service ref client with
        ⟨outcome, middle⟩
      rw [hresolved] at hknows hcached
      cases outcome with
      | error error => exact .failed hknows error
      | ok channelId =>
          have hmiddle := hchannelled.mono hknows
          have hfound := hcached channelId rfl
          cases channelId with
          | none => exact (ih hmiddle).cons hknows hfound
          | some channelId =>
              simp only [ClientCall.andThen]
              have hkept := @searchLive_knows _ service middle channelId
              rcases hsearched : searchLive service channelId middle with
                ⟨answer, searched⟩
              rw [hsearched] at hkept
              have hknown := hknows.trans hkept
              have hchannel := hkept ref _ hfound
              cases answer with
              | error error => exact .failed hknown error
              | ok found =>
                  have hafter := hmiddle.mono hkept
                  cases found with
                  | none => exact (ih hafter).cons hknown hchannel
                  | some value =>
                      exact (ih (channelled_overwrite hafter hchannel
                        value)).cons hknown hchannel

theorem YouTubeStep.knows {act : YouTubeAct W}
    (hstep : YouTubeStep service client act client') :
    Knows client client' := by
  cases hstep with
  | cycle refs =>
      refine (liveRefs_settles refs ?_).knows
      exact fun ref value hlive => nomatch hlive
  | elapse world => exact fun _ _ hknown => hknown

/-- What every successful cycle so far looked like, by the cache there is. -/
def Accounted (acts : List (YouTubeAct W)) (client : YouTubeClient W) : Prop :=
  ∀ refs live, .cycle refs (.ok live) ∈ acts →
    (∀ ref ∈ refs, (client.cache.get? ref).isSome) ∧ Channelled live client

theorem Accounted.step {acts : List (YouTubeAct W)} {act : YouTubeAct W}
    (haccounted : Accounted acts client)
    (hstep : YouTubeStep service client act client') :
    Accounted (acts ++ [act]) client' := by
  intro refs live hmem
  rcases List.mem_append.mp hmem with hold | hlast
  · obtain ⟨hcached, hchannelled⟩ := haccounted refs live hold
    refine ⟨fun ref href => ?_, hchannelled.mono hstep.knows⟩
    obtain ⟨channelId, hfound⟩ := Option.isSome_iff_exists.mp (hcached ref href)
    rw [hstep.knows ref channelId hfound]
    rfl
  · obtain rfl := List.mem_singleton.mp hlast
    generalize houtcome : (Except.ok live : Except CycleError _) = outcome
      at hstep
    cases hstep with
    | cycle refs =>
        have hempty : Channelled Table.empty client :=
          fun ref value hlive => nomatch hlive
        have hsettles := @liveRefs_settles _ service _ _ refs hempty
        exact ⟨hsettles.cached live houtcome.symm,
          hsettles.live live houtcome.symm⟩

end Settled

/-- Over every run of a YouTube client: after a successful cycle each of its
refs is resolved, and stays resolved as it was; and a ref is only ever live if
it was resolved to a channel.  So a ref whose first lookup found nothing or
failed is live in no cycle, however often it is asked for and whatever YouTube
answers later. -/
theorem channels_settle (service : YouTubeService W) {world : W}
    {acts later : List (YouTubeAct W)} {client client' : YouTubeClient W}
    (hrun : Run (YouTubeStep service) ⟨[], world⟩ acts client)
    (hlater : Run (YouTubeStep service) client later client') :
    (∀ refs live, .cycle refs (.ok live) ∈ acts → ∀ ref ∈ refs,
      ∃ channelId, client.cache.get? ref = some channelId ∧
        client'.cache.get? ref = some channelId) ∧
    ∀ ref, client.cache.get? ref = some none →
      ∀ refs live, .cycle refs (.ok live) ∈ acts ++ later →
        get? live ref = none := by
  have hknows : Knows client client' :=
    hlater.invariant (Knows client) (fun _ _ hknown => hknown)
      fun _ _ _ hknown hstep => hknown.trans hstep.knows
  have hstart : Accounted [] (⟨[], world⟩ : YouTubeClient W) :=
    fun refs live hmem => absurd hmem List.not_mem_nil
  have hbefore := hrun.labelled_invariant Accounted hstart
    fun _ _ _ _ haccounted hstep => haccounted.step hstep
  have hall := (hrun.append hlater).labelled_invariant Accounted hstart
    fun _ _ _ _ haccounted hstep => haccounted.step hstep
  refine ⟨fun refs live hcycle ref href => ?_, fun ref hnone refs live hcycle =>
    ?_⟩
  · obtain ⟨channelId, hfound⟩ := Option.isSome_iff_exists.mp
      ((hbefore refs live hcycle).1 ref href)
    exact ⟨channelId, hfound, hknows ref channelId hfound⟩
  · cases hlive : get? live ref with
    | none => rfl
    | some value =>
        obtain ⟨channelId, hfound⟩ := (hall refs live hcycle).2 ref value hlive
        cases hfound.symm.trans (hknows ref none hnone)

namespace ChannelWitness

/-- Everyone is live, but lookups fail while the world is `false`. -/
def service : YouTubeService Bool where
  channels _ _ world := (.ok (if world then some "UC" else none), world)
  search _ world := (.ok (some (some "now")), world)

def ref : String × String := ("handle", "@viper")

/-- The ref comes up in an outage, and again after it. -/
def outage : YouTubeClient Bool :=
  (getLiveRefsFrom service [ref] ⟨[], false⟩).2

def restored : YouTubeClient Bool := { outage with world := true }

theorem run_outage :
    Run (YouTubeStep service) ⟨[], false⟩ [.cycle [ref] (.ok Table.empty)]
      outage :=
  Run.refl.snoc (.cycle ⟨[], false⟩ [ref])

theorem run_restored :
    Run (YouTubeStep service) outage
      [.elapse true, .cycle [ref] (getLiveRefsFrom service [ref] restored).1]
      (getLiveRefsFrom service [ref] restored).2 :=
  (Run.refl.snoc (.elapse outage true)).snoc (.cycle restored [ref])

end ChannelWitness

open ChannelWitness in
/-- The channel stays unresolved after the outage. -/
theorem channels_settle_outage :
    ∃ channelId, outage.cache.get? ref = some channelId ∧
      (getLiveRefsFrom service [ref] restored).2.cache.get? ref =
        some channelId :=
  (channels_settle service run_outage run_restored).1 [ref] Table.empty
    List.mem_cons_self ref List.mem_cons_self

end LiveStandings
