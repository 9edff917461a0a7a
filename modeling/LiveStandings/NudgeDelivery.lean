/-
Delivery of nudges from the worker to an api instance.  One row per event is
overwritten in place, so what a poll sees is what the last commit left.
-/
import LiveStandings.Events
import LiveStandings.Library.Runs
import Mathlib.Logic.Function.Basic

namespace LiveStandings

open KeyedTable PyJson Runs

universe u

variable {T : Type u}

/-- The nudge table, one api instance's poller, and the worker transactions
that have emitted and not yet ended. -/
structure NudgeSystem (T : Type u) where
  nudges : NudgeTable
  poller : NudgePoller
  pending : T → Option Emit

/-- The events of a run; a poll carries what it published. -/
inductive NudgeAct (T : Type u) where
  | emit (tx : T) (event : EventType) (tournamentIds : Option (List Int))
      (now : Instant)
  | commit (emit : Emit)
  | rollback (tx : T)
  | poll (published : List Nudge)

/-- A transaction emits, then commits or is rolled back; a poll reads one
snapshot of the table. -/
inductive NudgeStep [DecidableEq T] :
    NudgeSystem T → NudgeAct T → NudgeSystem T → Prop where
  | emit (σ : NudgeSystem T) (tx : T) (event : EventType)
      (tournamentIds : Option (List Int)) (now : Instant)
      (hidle : σ.pending tx = none) :
      NudgeStep σ (.emit tx event tournamentIds now)
        { σ with
          pending := Function.update σ.pending tx
            (some (emitNudge σ.nudges event tournamentIds now)) }
  | commit (σ : NudgeSystem T) (tx : T) (emit : Emit) (row : NudgeVersion)
      (hpending : σ.pending tx = some emit)
      (hwritten : emit.written? σ.nudges = some row) :
      NudgeStep σ (.commit emit)
        { σ with
          nudges := σ.nudges.overwrite row
          pending := Function.update σ.pending tx none }
  | rollback (σ : NudgeSystem T) (tx : T) :
      NudgeStep σ (.rollback tx)
        { σ with pending := Function.update σ.pending tx none }
  | poll (σ : NudgeSystem T) :
      NudgeStep σ (.poll (pollForNudges σ.poller σ.nudges).1)
        { σ with poller := (pollForNudges σ.poller σ.nudges).2 }

/-- One scope names at least the tournaments of another; unscoped names all. -/
def ScopeCovers : Option (List Int) → Option (List Int) → Prop
  | none, _ => True
  | some _, none => False
  | some ids, some ids' => ids' ⊆ ids

instance (scope scope' : Option (List Int)) :
    Decidable (ScopeCovers scope scope') :=
  match scope, scope' with
  | none, _ => inferInstanceAs (Decidable True)
  | some _, none => inferInstanceAs (Decidable False)
  | some ids, some ids' => inferInstanceAs (Decidable (ids' ⊆ ids))

/-- Together the nudges reach everyone the scope names. -/
def NudgesCover (nudges : List Nudge) (event : EventType)
    (scope : Option (List Int)) : Prop :=
  (∃ nudge ∈ nudges, nudge.event = event ∧ nudge.tournamentIds = none) ∨
    ∃ ids, scope = some ids ∧ ∀ id ∈ ids,
      ∃ nudge ∈ nudges, nudge.event = event ∧
        ∃ ids', nudge.tournamentIds = some ids' ∧ id ∈ ids'

/-- What the polls among these events published. -/
def publishedIn : List (NudgeAct T) → List Nudge
  | [] => []
  | .poll published :: acts => published ++ publishedIn acts
  | _ :: acts => publishedIn acts

/-- No nudge is lost: once a poll follows a committed emit, the nudges
published since cover its scope. -/
def Delivered (acts : List (NudgeAct T)) : Prop :=
  ∀ before emit after, acts = before ++ .commit emit :: after →
    (∃ published, .poll published ∈ after) →
      NudgesCover (publishedIn after) emit.event emit.tournamentIds

/-- The row under an event has something the poller has not published. -/
def Unread (σ : NudgeSystem T) (row : NudgeVersion) : Prop :=
  σ.nudges.find? row.event = some row ∧
    advanced σ.poller.lastSeen row = true

/-- A commit is safe when the row it leaves will be published, and names
everybody its own emit and a still unread row named. -/
def SafeCommit (σ : NudgeSystem T) : NudgeAct T → Prop
  | .commit emit => ∀ row, emit.written? σ.nudges = some row →
      advanced σ.poller.lastSeen row = true ∧
        ScopeCovers row.tournamentIds emit.tournamentIds ∧
        ∀ stored, stored.event = emit.event → Unread σ stored →
          ScopeCovers row.tournamentIds stored.tournamentIds
  | _ => True

theorem ScopeCovers.trans {left middle right : Option (List Int)}
    (hleft : ScopeCovers left middle) (hright : ScopeCovers middle right) :
    ScopeCovers left right := by
  match left, middle, right with
  | none, _, _ => trivial
  | some _, none, _ => exact absurd hleft (by simp [ScopeCovers])
  | some _, some _, none => exact absurd hright (by simp [ScopeCovers])
  | some _, some _, some _ => exact List.Subset.trans hright hleft

theorem nudgesCover_of_mem {nudges : List Nudge} {row : NudgeVersion}
    {scope : Option (List Int)} (hmem : row.nudge ∈ nudges)
    (hcovers : ScopeCovers row.tournamentIds scope) :
    NudgesCover nudges row.event scope := by
  cases hids : row.tournamentIds with
  | none => exact Or.inl ⟨row.nudge, hmem, rfl, hids⟩
  | some ids =>
      cases scope with
      | none => simp [hids, ScopeCovers] at hcovers
      | some wanted =>
          have hsub : wanted ⊆ ids := by simpa [hids, ScopeCovers] using hcovers
          exact Or.inr ⟨wanted, rfl, fun id hid =>
            ⟨row.nudge, hmem, rfl, ids, hids, hsub hid⟩⟩

theorem NudgesCover.mono {nudges nudges' : List Nudge} {event : EventType}
    {scope : Option (List Int)} (hsub : nudges ⊆ nudges')
    (hcover : NudgesCover nudges event scope) :
    NudgesCover nudges' event scope := by
  rcases hcover with ⟨nudge, hmem, hrest⟩ | ⟨ids, hscope, hall⟩
  · exact Or.inl ⟨nudge, hsub hmem, hrest⟩
  · refine Or.inr ⟨ids, hscope, fun id hid => ?_⟩
    obtain ⟨nudge, hmem, hrest⟩ := hall id hid
    exact ⟨nudge, hsub hmem, hrest⟩

theorem publishedIn_append (acts acts' : List (NudgeAct T)) :
    publishedIn (acts ++ acts') = publishedIn acts ++ publishedIn acts' := by
  induction acts with
  | nil => rfl
  | cons act acts ih => cases act <;> simp [publishedIn, ih]

section Delivery

variable {σ σ' : NudgeSystem T}

theorem written_event {emit : Emit} {nudges : NudgeTable} {row : NudgeVersion}
    (hwritten : emit.written? nudges = some row) : row.event = emit.event := by
  unfold Emit.written? at hwritten
  split at hwritten
  · obtain rfl := Option.some.inj hwritten
    rfl
  · cases hwritten
  · next loaded stored hloaded hstored =>
      obtain rfl := Option.some.inj hwritten
      have hkey : stored.event = emit.event := nudges.key_of_find? hstored
      exact hkey
  · cases hwritten

/-- An event still to be published for this emit: its row is unread and
names everybody the emit named. -/
def Waiting (σ : NudgeSystem T) (emit : Emit) : Prop :=
  ∃ row, row.event = emit.event ∧ Unread σ row ∧
    ScopeCovers row.tournamentIds emit.tournamentIds

theorem waiting_of_safeCommit {emit : Emit} {row : NudgeVersion}
    {pending : T → Option Emit}
    (hwritten : emit.written? σ.nudges = some row)
    (hsafe : SafeCommit σ (.commit emit)) :
    Waiting { σ with nudges := σ.nudges.overwrite row, pending := pending }
      emit := by
  obtain ⟨hadvanced, hcovers, _⟩ := hsafe row hwritten
  exact ⟨row, written_event hwritten, ⟨by simp, hadvanced⟩, hcovers⟩

theorem Waiting.commit {emit earlier : Emit} {row : NudgeVersion}
    {pending : T → Option Emit}
    (hwritten : emit.written? σ.nudges = some row)
    (hsafe : SafeCommit σ (.commit emit)) (hwaiting : Waiting σ earlier) :
    Waiting { σ with nudges := σ.nudges.overwrite row, pending := pending }
      earlier := by
  obtain ⟨hadvanced, _, hkept⟩ := hsafe row hwritten
  have hevent := written_event hwritten
  obtain ⟨stored, hstored, hunread, hcovers⟩ := hwaiting
  by_cases hsame : stored.event = emit.event
  · refine ⟨row, (hevent.trans hsame.symm).trans hstored, ⟨by simp, hadvanced⟩,
      (hkept stored hsame hunread).trans hcovers⟩
  · have hne : row.event ≠ stored.event := by
      rw [hevent]
      exact fun heq => hsame heq.symm
    refine ⟨stored, hstored, ⟨?_, hunread.2⟩, hcovers⟩
    simpa [hne] using hunread.1

theorem Waiting.published {emit : Emit} (hwaiting : Waiting σ emit)
    (hinitialized : σ.poller.initialized = true) :
    NudgesCover (pollForNudges σ.poller σ.nudges).1 emit.event
      emit.tournamentIds := by
  obtain ⟨row, hevent, hunread, hcovers⟩ := hwaiting
  have hmem := mem_pollForNudges hinitialized hunread.1 hunread.2
  exact hevent ▸ nudgesCover_of_mem hmem hcovers

/-- What a run of safe commits keeps for each committed emit. -/
structure Tracked (acts : List (NudgeAct T)) (σ : NudgeSystem T) : Prop where
  initialized : σ.poller.initialized = true
  waiting : ∀ before emit after, acts = before ++ .commit emit :: after →
    (∀ published, .poll published ∉ after) → Waiting σ emit
  delivered : Delivered acts

theorem Tracked.idle {acts : List (NudgeAct T)} {act : NudgeAct T}
    (hinv : Tracked acts σ) (hnudges : σ'.nudges = σ.nudges)
    (hpoller : σ'.poller = σ.poller) (hcommit : ∀ emit, act ≠ .commit emit)
    (hpoll : ∀ published, act ≠ .poll published) :
    Tracked (acts ++ [act]) σ' := by
  have hquiet : publishedIn [act] = [] := by
    cases act with
    | poll published => exact absurd rfl (hpoll published)
    | _ => rfl
  refine ⟨hpoller ▸ hinv.initialized, ?_, ?_⟩
  · intro before emit after hsplit hunpolled
    rcases snoc_eq_append_cons hsplit with ⟨_, _, hlast⟩ | ⟨after', rfl, hacts⟩
    · exact absurd hlast (hcommit emit)
    · obtain ⟨row, hevent, hunread, hcovers⟩ := hinv.waiting before emit after'
        hacts fun published hmem =>
          hunpolled published (List.mem_append_left _ hmem)
      refine ⟨row, hevent, ?_, hcovers⟩
      simpa [Unread, hnudges, hpoller] using hunread
  · intro before emit after hsplit hpolled
    rcases snoc_eq_append_cons hsplit with ⟨_, _, hlast⟩ | ⟨after', rfl, hacts⟩
    · exact absurd hlast (hcommit emit)
    · rw [publishedIn_append, hquiet, List.append_nil]
      obtain ⟨published, hmem⟩ := hpolled
      rcases List.mem_append.mp hmem with hmem | hmem
      · exact hinv.delivered before emit after' hacts ⟨published, hmem⟩
      · exact absurd (List.mem_singleton.mp hmem).symm (hpoll published)

variable [DecidableEq T]

theorem Tracked.step {acts : List (NudgeAct T)} {act : NudgeAct T}
    (hinv : Tracked acts σ) (hsafe : SafeCommit σ act)
    (hstep : NudgeStep σ act σ') : Tracked (acts ++ [act]) σ' := by
  cases hstep with
  | emit tx event tournamentIds now hidle =>
      exact hinv.idle rfl rfl (by simp) (by simp)
  | rollback tx => exact hinv.idle rfl rfl (by simp) (by simp)
  | commit tx emit row hpending hwritten =>
      refine ⟨hinv.initialized, ?_, ?_⟩
      · intro before earlier after hsplit hunpolled
        rcases snoc_eq_append_cons hsplit with
          ⟨_, _, hlast⟩ | ⟨after', rfl, hacts⟩
        · obtain rfl := NudgeAct.commit.inj hlast
          exact waiting_of_safeCommit hwritten hsafe
        · refine Waiting.commit hwritten hsafe
            (hinv.waiting before earlier after' hacts ?_)
          exact fun published hmem =>
            hunpolled published (List.mem_append_left _ hmem)
      · intro before earlier after hsplit hpolled
        rcases snoc_eq_append_cons hsplit with
          ⟨rfl, _, _⟩ | ⟨after', rfl, hacts⟩
        · simp at hpolled
        · rw [publishedIn_append]
          refine (hinv.delivered before earlier after' hacts ?_).mono
            (List.subset_append_left _ _)
          simpa using hpolled
  | poll =>
      refine ⟨rfl, ?_, ?_⟩
      · intro before emit after hsplit hunpolled
        rcases snoc_eq_append_cons hsplit with
          ⟨_, _, hlast⟩ | ⟨after', rfl, _⟩
        · cases hlast
        · exact absurd (List.mem_append_right after' List.mem_cons_self)
            (hunpolled _)
      · intro before emit after hsplit _
        rcases snoc_eq_append_cons hsplit with
          ⟨_, _, hlast⟩ | ⟨after', rfl, hacts⟩
        · cases hlast
        · rw [publishedIn_append]
          by_cases hpolled : ∃ published, .poll published ∈ after'
          · exact (hinv.delivered before emit after' hacts hpolled).mono
              (List.subset_append_left _ _)
          · have hwaiting := hinv.waiting before emit after' hacts
              fun published hmem => hpolled ⟨published, hmem⟩
            refine (hwaiting.published hinv.initialized).mono ?_
            simp [publishedIn]

/-- In every run whose commits are safe no nudge is lost. -/
theorem committed_nudges_delivered {start : NudgeSystem T}
    (hstart : start.poller.initialized = true) {acts : List (NudgeAct T)}
    (hrun : Run (Guarded SafeCommit NudgeStep) start acts σ) :
    Delivered acts := by
  refine (hrun.labelled_invariant Tracked ⟨hstart, ?_, ?_⟩ ?_).delivered
  · intro before emit after hsplit
    simp at hsplit
  · intro before emit after hsplit
    simp at hsplit
  · rintro labels s act s' hinv ⟨hsafe, hstep⟩
    exact hinv.step hsafe hstep

theorem unguarded {act : NudgeAct T} (hcommit : ∀ emit, act ≠ .commit emit)
    (hstep : NudgeStep σ act σ') : Guarded SafeCommit NudgeStep σ act σ' := by
  refine ⟨?_, hstep⟩
  cases act with
  | commit emit => exact absurd rfl (hcommit emit)
  | _ => trivial

theorem Emit.written_of_loaded {emit : Emit} {nudges : NudgeTable}
    (hloaded : emit.loaded = nudges.find? emit.event) {row : NudgeVersion}
    (hwritten : emit.written? nudges = some row) : row = emit.row := by
  unfold Emit.written? at hwritten
  rw [hloaded] at hwritten
  cases hfind : nudges.find? emit.event with
  | none =>
      simp only [hfind, Option.some.injEq] at hwritten
      exact hwritten.symm
  | some stored =>
      have hkey : stored.event = emit.event := nudges.key_of_find? hfind
      simp only [hfind, Option.some.injEq] at hwritten
      rw [← hwritten, Emit.update, Emit.row, hkey]
      congr 1
      · split
        · next hsame => exact hsame.symm
        · rfl
      · split
        · next hsame => exact hsame.symm
        · rfl

omit [DecidableEq T] in
/-- A commit is safe when nobody else wrote the row since it was loaded, the
poller has read that row, and the stamp is later than what it read. -/
theorem safeCommit_of_read {emit : Emit}
    (hloaded : emit.loaded = σ.nudges.find? emit.event)
    (hread : ∀ stored, σ.nudges.find? emit.event = some stored →
      advanced σ.poller.lastSeen stored = false)
    (hlater : ∀ previous, σ.poller.lastSeen.get? emit.event = some previous →
      previous < emit.polledAt) :
    SafeCommit σ (.commit emit) := by
  intro row hwritten
  obtain rfl := emit.written_of_loaded hloaded hwritten
  have hadvanced : advanced σ.poller.lastSeen emit.row = true := by
    unfold advanced
    split
    · rfl
    · next previous hprevious =>
        exact decide_eq_true (hlater previous hprevious)
  have hcovers : ScopeCovers emit.row.tournamentIds emit.tournamentIds := by
    change ScopeCovers emit.tournamentIds emit.tournamentIds
    cases emit.tournamentIds with
    | none => trivial
    | some ids => exact List.Subset.refl ids
  refine ⟨hadvanced, hcovers, ?_⟩
  rintro stored hevent ⟨hfind, hunread⟩
  rw [hread stored (hevent ▸ hfind)] at hunread
  cases hunread

end Delivery

section DeliveryWitness

/-- The LIVE row as the api instance last read it. -/
def liveRead : NudgeSystem Bool where
  nudges := Table.empty.insertNew ⟨.live, 0, none⟩
  poller := ⟨Dict.ofPairs [(.live, 0)], true⟩
  pending := fun _ => none

/-- The emit of a LIVE nudge scoped to one tournament. -/
def liveEmit : Emit := emitNudge liveRead.nudges .live (some [7]) 1

/-- Another emitter's STANDINGS nudge, scoped to another tournament. -/
def standingsEmit : Emit := emitNudge liveRead.nudges .standings (some [8]) 2

/-- The first emit is pending. -/
def liveEmitted : NudgeSystem Bool :=
  { liveRead with
    pending := Function.update liveRead.pending true (some liveEmit) }

/-- Both emits are pending. -/
def bothEmitted : NudgeSystem Bool :=
  { liveEmitted with
    pending := Function.update liveEmitted.pending false (some standingsEmit) }

/-- The first one is committed. -/
def liveCommitted : NudgeSystem Bool :=
  { bothEmitted with
    nudges := bothEmitted.nudges.overwrite ⟨.live, 1, some [7]⟩
    pending := Function.update bothEmitted.pending true none }

/-- Two emitters' scoped nudges are emitted, committed and polled. -/
theorem committed_nudges_delivered_live :
    Delivered [NudgeAct.emit true .live (some [7]) 1,
      .emit false .standings (some [8]) 2,
      .commit ⟨.live, 1, some [7], some ⟨.live, 0, none⟩⟩,
      .commit ⟨.standings, 2, some [8], none⟩,
      .poll [⟨.live, 1, some [7]⟩, ⟨.standings, 2, some [8]⟩]] := by
  have hlive : NudgeStep liveRead (.emit true .live (some [7]) 1)
      liveEmitted := .emit liveRead true .live (some [7]) 1 rfl
  have hstandings : NudgeStep liveEmitted
      (.emit false .standings (some [8]) 2) bothEmitted :=
    .emit liveEmitted false .standings (some [8]) 2 rfl
  have hfirst : NudgeStep bothEmitted (.commit liveEmit) liveCommitted :=
    .commit bothEmitted true liveEmit _ rfl rfl
  have hsecond := NudgeStep.commit liveCommitted false standingsEmit _ rfl rfl
  have hsafeFirst : SafeCommit bothEmitted (.commit liveEmit) := by
    refine safeCommit_of_read rfl ?_ ?_
    · intro stored hstored
      obtain rfl := Option.some.inj hstored
      rfl
    · intro previous hprevious
      obtain rfl := Option.some.inj hprevious
      decide
  have hsafeSecond : SafeCommit liveCommitted (.commit standingsEmit) :=
    safeCommit_of_read rfl nofun nofun
  have hrun := Run.snoc (Run.snoc (Run.snoc (Run.snoc (Run.snoc
    (Run.refl : Run (Guarded SafeCommit NudgeStep) liveRead [] liveRead)
    (unguarded (by simp) hlive)) (unguarded (by simp) hstandings))
    ⟨hsafeFirst, hfirst⟩) ⟨hsafeSecond, hsecond⟩)
    (unguarded (by simp) (.poll _))
  exact committed_nudges_delivered rfl hrun

/-- An unscoped LIVE commit, then a scoped one before the next poll: the row
holds the second scope only, and everybody outside it is never told. -/
theorem unscoped_nudge_lost :
    ∃ σ, Run NudgeStep liveRead
        [.emit true .live none 1,
          .commit ⟨.live, 1, none, some ⟨.live, 0, none⟩⟩,
          .emit false .live (some [7]) 2,
          .commit ⟨.live, 2, some [7], some ⟨.live, 1, none⟩⟩,
          .poll [⟨.live, 2, some [7]⟩]] σ ∧
      ¬ Delivered [NudgeAct.emit true .live none 1,
          .commit ⟨.live, 1, none, some ⟨.live, 0, none⟩⟩,
          .emit false .live (some [7]) 2,
          .commit ⟨.live, 2, some [7], some ⟨.live, 1, none⟩⟩,
          .poll [⟨.live, 2, some [7]⟩]] := by
  have hfirst : NudgeStep liveRead (.emit true .live none 1) _ :=
    .emit liveRead true .live none 1 rfl
  refine ⟨_, Run.snoc (Run.snoc (Run.snoc (Run.snoc (Run.snoc
    (Run.refl : Run NudgeStep liveRead [] liveRead) hfirst)
    (.commit _ true _ _ rfl rfl)) (.emit _ false .live (some [7]) 2 rfl))
    (.commit _ false _ _ rfl rfl)) (.poll _), fun hdelivered => ?_⟩
  have hcover := hdelivered [_] _ _ rfl ⟨[⟨.live, 2, some [7]⟩], by simp⟩
  simp [NudgesCover, publishedIn] at hcover

end DeliveryWitness

end LiveStandings
