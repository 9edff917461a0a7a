/-
The nudge table.  The worker bumps an event's row inside the transaction that
writes the data; every api instance polls the rows and republishes the ones
that advanced.
-/
import LiveStandings.Models
import Mathlib.Data.List.Dedup
import Mathlib.Data.List.Sort

namespace LiveStandings

open KeyedTable PyJson

abbrev NudgeTable := Table NudgeVersion.event

/-- `Nudge`: which slice changed, when, and for which tournaments; `none` is
every tournament. -/
structure Nudge where
  event : EventType
  polledAt : Instant
  tournamentIds : Option (List Int)
deriving Repr, DecidableEq

/-- `sorted(set(ids))`. -/
def sortedSet (ids : List Int) : List Int :=
  ids.dedup.insertionSort (· ≤ ·)

@[simp] theorem mem_sortedSet {ids : List Int} {id : Int} :
    id ∈ sortedSet ids ↔ id ∈ ids := by
  simp [sortedSet, (List.perm_insertionSort _ _).mem_iff]

/-- The scope that is stored: no ids at all means unscoped. -/
def storedScope : Option (List Int) → Option (List Int)
  | none => none
  | some [] => none
  | some ids => some (sortedSet ids)

/-- What `emit_nudge` leaves pending in its session: the new values, and the
row the session loaded. -/
structure Emit where
  event : EventType
  polledAt : Instant
  tournamentIds : Option (List Int)
  loaded : Option NudgeVersion
deriving Repr, DecidableEq

/-- `emit_nudge`. -/
def emitNudge (nudges : NudgeTable) (event : EventType)
    (tournamentIds : Option (List Int)) (now : Instant) : Emit where
  event := event
  polledAt := now
  tournamentIds := storedScope tournamentIds
  loaded := nudges.find? event

/-- The row an emit adds. -/
def Emit.row (emit : Emit) : NudgeVersion :=
  ⟨emit.event, emit.polledAt, emit.tournamentIds⟩

/-- The flush of a loaded row sets the columns whose values changed since it
was loaded, and no other. -/
def Emit.update (emit : Emit) (loaded stored : NudgeVersion) : NudgeVersion :=
  { stored with
    polledAt :=
      if emit.polledAt = loaded.polledAt then stored.polledAt
      else emit.polledAt
    tournamentIds :=
      if emit.tournamentIds = loaded.tournamentIds then stored.tournamentIds
      else emit.tournamentIds }

/-- The row a commit leaves; `none` where the insert meets a row. -/
def Emit.written? (emit : Emit) (nudges : NudgeTable) : Option NudgeVersion :=
  match emit.loaded, nudges.find? emit.event with
  | none, none => some emit.row
  | none, some _ => none
  | some loaded, some stored => some (emit.update loaded stored)
  | some _, none => none

/-- `last_seen` of one poll loop, and whether its first poll is over. -/
structure NudgePoller where
  lastSeen : Dict EventType Instant
  initialized : Bool

/-- The test a polled row must pass to be published. -/
def advanced (lastSeen : Dict EventType Instant) (row : NudgeVersion) : Bool :=
  match lastSeen.get? row.event with
  | none => true
  | some previous => previous < row.polledAt

/-- The nudge a row is published as. -/
def NudgeVersion.nudge (row : NudgeVersion) : Nudge :=
  ⟨row.event, row.polledAt, row.tournamentIds⟩

/-- The body of the poll loop over the rows that were read. -/
def pollRows (initialized : Bool) :
    List NudgeVersion → Dict EventType Instant →
      List Nudge × Dict EventType Instant
  | [], lastSeen => ([], lastSeen)
  | row :: rows, lastSeen =>
      let (published, lastSeen') :=
        pollRows initialized rows (lastSeen.set row.event row.polledAt)
      if initialized && advanced lastSeen row then
        (row.nudge :: published, lastSeen')
      else (published, lastSeen')

/-- One iteration of `poll_for_nudges`. -/
def pollForNudges (poller : NudgePoller) (nudges : NudgeTable) :
    List Nudge × NudgePoller :=
  let (published, lastSeen) :=
    pollRows poller.initialized nudges.rows poller.lastSeen
  (published, ⟨lastSeen, true⟩)

/-- After the first poll, a row that advanced is published as it stands. -/
theorem mem_pollRows {rows : List NudgeVersion}
    (hnodup : (rows.map NudgeVersion.event).Nodup)
    (lastSeen : Dict EventType Instant) {row : NudgeVersion}
    (hrow : row ∈ rows) (hadvanced : advanced lastSeen row = true) :
    row.nudge ∈ (pollRows true rows lastSeen).1 := by
  induction rows generalizing lastSeen with
  | nil => simp at hrow
  | cons head tail ih =>
      obtain ⟨hfresh, htail⟩ := List.nodup_cons.mp hnodup
      rcases List.mem_cons.mp hrow with rfl | hmem
      · simp [pollRows, hadvanced]
      · have hne : row.event ≠ head.event := by
          intro heq
          exact hfresh (heq ▸ List.mem_map_of_mem hmem)
        have hkept : advanced (lastSeen.set head.event head.polledAt) row =
            true := by
          simpa [advanced, hne] using hadvanced
        have hpublished := ih htail _ hmem hkept
        simp only [pollRows]
        split
        · exact List.mem_cons_of_mem _ hpublished
        · exact hpublished

theorem mem_pollForNudges {poller : NudgePoller} {nudges : NudgeTable}
    (hinitialized : poller.initialized = true) {row : NudgeVersion}
    (hfind : nudges.find? row.event = some row)
    (hadvanced : advanced poller.lastSeen row = true) :
    row.nudge ∈ (pollForNudges poller nudges).1 := by
  simp only [pollForNudges, hinitialized]
  exact mem_pollRows nudges.keys_nodup poller.lastSeen
    (nudges.mem_of_find? hfind) hadvanced

end LiveStandings
