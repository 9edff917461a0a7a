/-
Two writers of one match row.  The finished-match feed overwrites the row, a
lobby only moves the state of an unfinished one; whatever their order, the
row is what the feed last said and the lobbies seen since it was last open.
-/
import LiveStandings.Pollers
import Mathlib.Data.List.Induction
import Mathlib.Data.List.TakeWhile

namespace LiveStandings

open KeyedTable PyJson

/-- An upsert of a match, by either poller. -/
inductive MatchWrite where
  | recent (row : Match)
  | live (row : Match)

/-- The row an upsert carries. -/
def MatchWrite.row : MatchWrite → Match
  | recent row => row
  | live row => row

/-- Whether a lobby was written. -/
def MatchWrite.isLive : MatchWrite → Bool
  | recent _ => false
  | live _ => true

/-- Whether the finished-match feed left the match without a completion. -/
def MatchWrite.leavesOpen : MatchWrite → Bool
  | recent row => row.completedAt.isNone
  | live _ => false

/-- The statement of an upsert. -/
def MatchWrite.write (db : Database) : MatchWrite → Database
  | recent row => upsertMatchFromRecent db row
  | live row => upsertMatchFromLive db row

/-- What an upsert leaves of its row. -/
def MatchWrite.leaves : Option Match → MatchWrite → Option Match
  | _, recent row => some row
  | none, live row => some row
  | some stored, live row => some (row.observedLive stored)

/-- The upserts of one match. -/
def aboutMatch (matchId : Int) (writes : List MatchWrite) : List MatchWrite :=
  writes.filter (·.row.matchId = matchId)

/-- The lobbies written since the feed last left the match open, or since the
start if it never did. -/
def liveSinceOpen (writes : List MatchWrite) : List MatchWrite :=
  ((writes.reverse.takeWhile fun write => !write.leavesOpen).reverse).filter
    (·.isLive)

/-- Every upsert of the feed, in order, and then those lobbies. -/
def recentThenLive (writes : List MatchWrite) : List MatchWrite :=
  writes.filter (fun write => !write.isLive) ++ liveSinceOpen writes

section Row

theorem Match.observedLive_eq (row stored : Match) :
    ∃ state updatedAt, row.observedLive stored =
        { stored with state := state, updatedAt := updatedAt } ∧
      (stored.completedAt = none →
        state = row.state ∧ updatedAt = row.updatedAt) := by
  unfold Match.observedLive
  split
  · exact ⟨row.state, row.updatedAt, rfl, fun _ => ⟨rfl, rfl⟩⟩
  · next hcompleted =>
      exact ⟨stored.state, stored.updatedAt, rfl,
        fun hopen => absurd (by simp [hopen]) hcompleted⟩

theorem find?_write (db : Database) (write : MatchWrite) (matchId : Int) :
    (write.write db).matchTable.find? matchId =
      if write.row.matchId = matchId then
        write.leaves (db.matchTable.find? matchId)
      else db.matchTable.find? matchId := by
  cases write with
  | recent row =>
      have hfind := db.matchTable.find?_overwrite row matchId
      exact hfind
  | live row =>
      rw [MatchWrite.write, upsertMatchFromLive, Table.find?_upsert]
      cases db.matchTable.find? matchId <;> rfl

theorem find?_writes (writes : List MatchWrite) (db : Database)
    (matchId : Int) :
    (writes.foldl MatchWrite.write db).matchTable.find? matchId =
      (aboutMatch matchId writes).foldl MatchWrite.leaves
        (db.matchTable.find? matchId) := by
  induction writes generalizing db with
  | nil => rfl
  | cons write writes ih =>
      rw [List.foldl_cons, ih, find?_write]
      by_cases habout : write.row.matchId = matchId
      · simp [aboutMatch, habout]
      · simp [aboutMatch, habout]

theorem foldl_leaves_completed {stored : Match}
    (hcompleted : stored.completedAt.isSome) {lives : List MatchWrite}
    (hlive : ∀ write ∈ lives, write.isLive) :
    lives.foldl MatchWrite.leaves (some stored) = some stored := by
  induction lives with
  | nil => rfl
  | cons write lives ih =>
      have hfirst := hlive write List.mem_cons_self
      cases write with
      | recent row => cases hfirst
      | live row =>
          have hkept : row.observedLive stored = stored := by
            apply if_neg
            simp [Option.isSome_iff_ne_none.mp hcompleted]
          rw [List.foldl_cons, MatchWrite.leaves, hkept]
          exact ih fun write hwrite => hlive write (List.mem_cons_of_mem _ hwrite)

theorem liveSinceOpen_snoc (writes : List MatchWrite) (write : MatchWrite) :
    liveSinceOpen (writes ++ [write]) =
      if write.leavesOpen then []
      else liveSinceOpen writes ++ [write].filter (·.isLive) := by
  unfold liveSinceOpen
  cases hopen : write.leavesOpen <;>
    simp [hopen]

theorem isLive_of_mem_liveSinceOpen {writes : List MatchWrite}
    {write : MatchWrite} (hmem : write ∈ liveSinceOpen writes) :
    write.isLive := by
  exact (List.mem_filter.mp hmem).2

theorem mem_of_mem_recentThenLive {writes : List MatchWrite}
    {write : MatchWrite} (hmem : write ∈ recentThenLive writes) :
    write ∈ writes := by
  rcases List.mem_append.mp hmem with hrecent | hlive
  · exact List.mem_of_mem_filter hrecent
  · have htaken := List.mem_of_mem_filter hlive
    exact List.mem_reverse.mp
      ((List.takeWhile_prefix _).subset (List.mem_reverse.mp htaken))

theorem foldl_recentThenLive (writes : List MatchWrite)
    (stored : Option Match) :
    writes.foldl MatchWrite.leaves stored =
      (recentThenLive writes).foldl MatchWrite.leaves stored := by
  induction writes using List.reverseRecOn with
  | nil => rfl
  | append_singleton writes write ih =>
      rw [List.foldl_concat, ih]
      simp only [recentThenLive, List.filter_append, liveSinceOpen_snoc]
      cases write with
      | live row =>
          -- one more lobby, after the same ones
          simp [MatchWrite.isLive, MatchWrite.leavesOpen, List.foldl_append]
      | recent row =>
          cases hcompleted : row.completedAt with
          | none =>
              simp [MatchWrite.isLive, MatchWrite.leavesOpen, hcompleted,
                MatchWrite.leaves]
          | some completedAt =>
              have hset : row.completedAt.isSome := by simp [hcompleted]
              have hkept : (liveSinceOpen writes).foldl MatchWrite.leaves
                  (some row) = some row :=
                foldl_leaves_completed hset fun _ => isLive_of_mem_liveSinceOpen
              simp [MatchWrite.isLive, MatchWrite.leavesOpen, hcompleted,
                MatchWrite.leaves, hkept]

end Row

/-- Lobbies never roll a match back.  In every state reached: a lobby changes
at most the state and the stamp of a stored match, which an open one gets from
it; no number of them changes a completed one; and the row of a match is the
one its finished-match upserts give, followed by the lobbies seen since the feed
last left it open. -/
theorem live_never_rolls_back (db : Database) (writes : List MatchWrite) :
    (∀ row stored : Match,
      (writes.foldl MatchWrite.write db).matchTable.find? row.matchId =
          some stored →
        ∃ state updatedAt,
          (upsertMatchFromLive (writes.foldl MatchWrite.write db)
                row).matchTable.find? row.matchId =
              some { stored with state := state, updatedAt := updatedAt } ∧
            (stored.completedAt = none →
              state = row.state ∧ updatedAt = row.updatedAt)) ∧
      (∀ (row : Match) (lives : List MatchWrite), row.completedAt.isSome →
        (∀ write ∈ lives, write.isLive) →
        (lives.foldl MatchWrite.write
            (upsertMatchFromRecent (writes.foldl MatchWrite.write db)
              row)).matchTable.find? row.matchId = some row) ∧
      ∀ matchId,
        (writes.foldl MatchWrite.write db).matchTable.find? matchId =
          ((recentThenLive (aboutMatch matchId writes)).foldl
            MatchWrite.write db).matchTable.find? matchId := by
  refine ⟨fun row stored hstored => ?_, fun row lives hcompleted hlive => ?_,
    fun matchId => ?_⟩
  · obtain ⟨state, updatedAt, hobserved, hopen⟩ := row.observedLive_eq stored
    have hwritten := find?_write (writes.foldl MatchWrite.write db)
      (.live row) row.matchId
    rw [hstored] at hwritten
    refine ⟨state, updatedAt, hwritten.trans ?_, hopen⟩
    rw [← hobserved]
    exact if_pos rfl
  · have hwritten := find?_write (writes.foldl MatchWrite.write db)
      (.recent row) row.matchId
    have hstored : (upsertMatchFromRecent (writes.foldl MatchWrite.write db)
        row).matchTable.find? row.matchId = some row :=
      hwritten.trans (if_pos rfl)
    rw [find?_writes, hstored]
    apply foldl_leaves_completed hcompleted
    intro write hwrite
    exact hlive write (List.mem_of_mem_filter hwrite)
  · have habout : aboutMatch matchId (recentThenLive (aboutMatch matchId writes)) =
        recentThenLive (aboutMatch matchId writes) := by
      apply List.filter_eq_self.mpr
      intro write hwrite
      exact (List.mem_filter.mp (mem_of_mem_recentThenLive hwrite)).2
    rw [find?_writes, find?_writes, habout, ← foldl_recentThenLive]

end LiveStandings
