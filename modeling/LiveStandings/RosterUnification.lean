/-
The migration to one roster.  Polled players and announced placeholders had a
table each; the upgrade numbers the ones and appends the others, and the
downgrade takes them apart again.
-/
import LiveStandings.NameBackfill
import LiveStandings.Library.Ranking

namespace LiveStandings

open KeyedTable Ranking

variable {P : Type}

/-- `tournament_players` at revision `41ce2470a690`. -/
structure PolledEntry (P : Type) where
  tournamentId : Int
  profileId : Int
  presentation : P

def PolledEntry.key (entry : PolledEntry P) : Int × Int :=
  (entry.tournamentId, entry.profileId)

/-- `tournament_placeholder_players`. -/
structure PlaceholderEntry (P : Type) where
  tournamentId : Int
  name : String
  presentation : P

def PlaceholderEntry.key (entry : PlaceholderEntry P) : Int × String :=
  (entry.tournamentId, entry.name)

/-- The two tables the upgrade starts from. -/
structure SplitRoster (P : Type) where
  polled : Table (PolledEntry.key (P := P))
  placeholders : Table (PlaceholderEntry.key (P := P))

/-- The one table it leaves, with its constraints. -/
structure UnifiedRoster (P : Type) where
  rows : List (RosterEntry P)
  ids : (rows.map (·.id)).Nodup
  oneIdentity : OneIdentity rows
  profilesUnique : ProfilesUnique rows
  namesUnique : NamesUnique rows

/-- `ROW_NUMBER() OVER (ORDER BY tournament_id, profile_id)`. -/
def rowNumber (rows : List (PolledEntry P)) (entry : PolledEntry P) : Int :=
  1 + (rank (fun row => toLex row.key) rows entry : Int)

/-- A numbered row of `tournament_players`. -/
def numberedRow (rows : List (PolledEntry P)) (entry : PolledEntry P) :
    RosterEntry P where
  id := rowNumber rows entry
  tournamentId := entry.tournamentId
  profileId := some entry.profileId
  name := none
  presentation := entry.presentation

/-- A placeholder with the next value of the sequence. -/
def placeholderRow (id : Int) (entry : PlaceholderEntry P) : RosterEntry P where
  id := id
  tournamentId := entry.tournamentId
  profileId := none
  name := some entry.name
  presentation := entry.presentation

/-- What `nextval` gives after `setval(COALESCE(MAX(id), 1))`. -/
def nextId (rows : List (RosterEntry P)) : Int :=
  ((rows.map (·.id)).max?).getD 1 + 1

/-- `INSERT INTO tournament_players ... SELECT`, one id after the other. -/
def insertPlaceholders : Int → List (PlaceholderEntry P) →
    List (RosterEntry P)
  | _, [] => []
  | id, entry :: entries =>
      placeholderRow id entry :: insertPlaceholders (id + 1) entries

/-- The polled rows with their numbers. -/
def numberedRows (split : SplitRoster P) : List (RosterEntry P) :=
  split.polled.rows.map (numberedRow split.polled.rows)

/-- The placeholders that join them. -/
def joinedRows (split : SplitRoster P) : List (RosterEntry P) :=
  insertPlaceholders (nextId (numberedRows split)) split.placeholders.rows

/-- A row as a polled player, if it is one. -/
def RosterEntry.polled? (row : RosterEntry P) : Option (PolledEntry P) :=
  row.profileId.map fun profileId =>
    ⟨row.tournamentId, profileId, row.presentation⟩

/-- A row as a placeholder: `WHERE profile_id IS NULL`. -/
def RosterEntry.placeholder? (row : RosterEntry P) :
    Option (PlaceholderEntry P) :=
  if row.profileId.isNone then
    row.name.map fun name => ⟨row.tournamentId, name, row.presentation⟩
  else none

/-- A row without its surrogate id. -/
def RosterEntry.content (row : RosterEntry P) :
    Int × Option Int × Option String × P :=
  (row.tournamentId, row.profileId, row.name, row.presentation)

theorem RosterEntry.polled?_eq_some_iff {row : RosterEntry P}
    {entry : PolledEntry P} :
    row.polled? = some entry ↔ row.profileId = some entry.profileId ∧
      row.tournamentId = entry.tournamentId ∧
        row.presentation = entry.presentation := by
  rw [RosterEntry.polled?, Option.map_eq_some_iff]
  constructor
  · rintro ⟨profileId, hprofile, rfl⟩
    exact ⟨hprofile, rfl, rfl⟩
  · rintro ⟨hprofile, htournament, hpresentation⟩
    exact ⟨entry.profileId, hprofile, by rw [htournament, hpresentation]⟩

theorem RosterEntry.placeholder?_eq_some_iff {row : RosterEntry P}
    {entry : PlaceholderEntry P} :
    row.placeholder? = some entry ↔ row.profileId = none ∧
      row.name = some entry.name ∧ row.tournamentId = entry.tournamentId ∧
        row.presentation = entry.presentation := by
  rw [RosterEntry.placeholder?]
  constructor
  · intro hrow
    split at hrow
    next hnone =>
      obtain ⟨name, hname, rfl⟩ := Option.map_eq_some_iff.mp hrow
      exact ⟨Option.isNone_iff_eq_none.mp hnone, hname, rfl, rfl⟩
    next => cases hrow
  · rintro ⟨hprofile, hname, htournament, hpresentation⟩
    rw [hprofile, Option.isNone_none, if_pos rfl, hname, Option.map_some,
      htournament, hpresentation]

section Upgrade

variable {split : SplitRoster P} {row : RosterEntry P}

theorem mem_insertPlaceholders {id : Int} {entries : List (PlaceholderEntry P)}
    (hrow : row ∈ insertPlaceholders id entries) :
    id ≤ row.id ∧ ∃ entry ∈ entries, row = placeholderRow row.id entry := by
  induction entries generalizing id with
  | nil => cases hrow
  | cons entry entries ih =>
      rcases List.mem_cons.mp hrow with rfl | hrest
      · exact ⟨le_refl _, entry, List.mem_cons_self, rfl⟩
      · obtain ⟨hid, other, hother, heq⟩ := ih hrest
        exact ⟨by omega, other, List.mem_cons_of_mem _ hother, heq⟩

theorem insertPlaceholders_ids_nodup (id : Int)
    (entries : List (PlaceholderEntry P)) :
    ((insertPlaceholders id entries).map (·.id)).Nodup := by
  induction entries generalizing id with
  | nil => exact List.nodup_nil
  | cons entry entries ih =>
      refine List.nodup_cons.mpr ⟨fun hmem => ?_, ih (id + 1)⟩
      obtain ⟨row, hrow, hid⟩ := List.mem_map.mp hmem
      have hle := (mem_insertPlaceholders hrow).1
      have hsame : row.id = id := hid
      omega

theorem lt_nextId {rows : List (RosterEntry P)} (hrow : row ∈ rows) :
    row.id < nextId rows := by
  have hmem := List.mem_map_of_mem (f := (·.id)) hrow
  rw [nextId]
  cases hmax : (rows.map (·.id)).max? with
  | none =>
      rw [List.max?_eq_none_iff] at hmax
      rw [hmax] at hmem
      cases hmem
  | some greatest =>
      have hle := (List.max?_eq_some_iff.mp hmax).2 row.id hmem
      simp only [Option.getD_some]
      omega

theorem numberedRows_ids_nodup (split : SplitRoster P) :
    ((numberedRows split).map (·.id)).Nodup := by
  rw [numberedRows, List.map_map]
  refine List.Nodup.map_on (fun left hleft right hright hid => ?_)
    (List.Nodup.of_map _ split.polled.keys_nodup)
  have hrank : rank (fun row => toLex row.key) split.polled.rows left =
      rank (fun row => toLex row.key) split.polled.rows right := by
    simp only [Function.comp_apply, numberedRow, rowNumber] at hid
    omega
  have hkey := key_eq_of_rank (fun row : PolledEntry P => toLex row.key)
    hleft hright hrank
  exact split.polled.eq_of_key_eq hleft hright (toLex.injective hkey)

theorem mem_numberedRows (hrow : row ∈ numberedRows split) :
    ∃ entry ∈ split.polled.rows,
      row = numberedRow split.polled.rows entry := by
  obtain ⟨entry, hentry, rfl⟩ := List.mem_map.mp hrow
  exact ⟨entry, hentry, rfl⟩

theorem mem_joinedRows (hrow : row ∈ joinedRows split) :
    nextId (numberedRows split) ≤ row.id ∧
      ∃ entry ∈ split.placeholders.rows,
        row = placeholderRow row.id entry :=
  mem_insertPlaceholders hrow

theorem joinedRows_profile (hrow : row ∈ joinedRows split) :
    row.profileId = none := by
  obtain ⟨-, entry, -, heq⟩ := mem_joinedRows hrow
  rw [heq]
  rfl

theorem numberedRows_name (hrow : row ∈ numberedRows split) :
    row.name = none := by
  obtain ⟨entry, -, rfl⟩ := mem_numberedRows hrow
  rfl

theorem insertPlaceholders_namesUnique (id : Int)
    {entries : List (PlaceholderEntry P)}
    (hkeys : (entries.map PlaceholderEntry.key).Nodup) :
    NamesUnique (insertPlaceholders id entries) := by
  induction entries generalizing id with
  | nil => exact List.Pairwise.nil
  | cons entry entries ih =>
      obtain ⟨hfresh, hrest⟩ := List.nodup_cons.mp hkeys
      refine List.Pairwise.cons (fun row hrow htournament _ hname => ?_)
        (ih (id + 1) hrest)
      obtain ⟨-, other, hother, heq⟩ := mem_insertPlaceholders hrow
      rw [heq] at htournament hname
      refine hfresh (List.mem_map.mpr ⟨other, hother, ?_⟩)
      exact Prod.ext htournament.symm (Option.some.inj hname).symm

theorem numberedRows_profilesUnique (split : SplitRoster P) :
    ProfilesUnique (numberedRows split) := by
  refine List.pairwise_map.mpr ?_
  refine (List.pairwise_map.mp split.polled.keys_nodup).imp ?_
  intro left right hkey htournament _ hprofile
  exact hkey (Prod.ext htournament (Option.some.inj hprofile))

/-- `upgrade` of revision `75c172c71c39`.  Every constraint it adds holds, so
it never fails. -/
def SplitRoster.upgrade (split : SplitRoster P) : UnifiedRoster P where
  rows := numberedRows split ++ joinedRows split
  ids := by
    rw [List.map_append, List.nodup_append']
    refine ⟨numberedRows_ids_nodup split,
      insertPlaceholders_ids_nodup _ _, fun id hleft hright => ?_⟩
    obtain ⟨left, hmem, rfl⟩ := List.mem_map.mp hleft
    obtain ⟨right, hjoined, hid⟩ := List.mem_map.mp hright
    have hlt := lt_nextId hmem
    have hle := (mem_joinedRows hjoined).1
    omega
  oneIdentity := by
    intro row hrow
    rcases List.mem_append.mp hrow with hpolled | hjoined
    · obtain ⟨entry, -, rfl⟩ := mem_numberedRows hpolled
      exact Bool.false_ne_true
    · obtain ⟨-, entry, -, heq⟩ := mem_joinedRows hjoined
      rw [heq]
      exact Bool.false_ne_true.symm
  profilesUnique := by
    refine List.pairwise_append.mpr
      ⟨numberedRows_profilesUnique split, ?_, ?_⟩
    · refine List.Pairwise.imp_of_mem (R := fun _ _ => True) ?_
        (List.pairwise_of_forall fun _ _ => trivial)
      intro left right hleft _ _ _ hsome
      rw [joinedRows_profile hleft] at hsome
      cases hsome
    · intro left hleft right hright _ hsome hprofile
      rw [hprofile, joinedRows_profile hright] at hsome
      cases hsome
  namesUnique := by
    refine List.pairwise_append.mpr ⟨?_, insertPlaceholders_namesUnique _
      split.placeholders.keys_nodup, ?_⟩
    · refine List.Pairwise.imp_of_mem (R := fun _ _ => True) ?_
        (List.pairwise_of_forall fun _ _ => trivial)
      intro left right hleft _ _ _ hsome
      rw [numberedRows_name hleft] at hsome
      cases hsome
    · intro left hleft right hright _ hsome
      rw [numberedRows_name hleft] at hsome
      cases hsome

end Upgrade

section Downgrade

theorem polled_keys_nodup {rows : List (RosterEntry P)}
    (hunique : ProfilesUnique rows) :
    ((rows.filterMap RosterEntry.polled?).map PolledEntry.key).Nodup := by
  refine List.pairwise_map.mpr (List.pairwise_filterMap.mpr ?_)
  refine hunique.imp ?_
  intro left right hunequal entry hentry other hother hkey
  obtain ⟨hleft, htournament, -⟩ := RosterEntry.polled?_eq_some_iff.mp hentry
  obtain ⟨hright, htournament', -⟩ :=
    RosterEntry.polled?_eq_some_iff.mp hother
  obtain ⟨hsame, hprofile⟩ := Prod.mk.inj hkey
  refine hunequal (by rw [htournament, htournament', hsame])
    (by rw [hleft]; rfl) ?_
  rw [hleft, hright, hprofile]

theorem placeholder_keys_nodup {rows : List (RosterEntry P)}
    (hunique : NamesUnique rows) :
    ((rows.filterMap RosterEntry.placeholder?).map
      PlaceholderEntry.key).Nodup := by
  refine List.pairwise_map.mpr (List.pairwise_filterMap.mpr ?_)
  refine hunique.imp ?_
  intro left right hunequal entry hentry other hother hkey
  obtain ⟨-, hleft, htournament, -⟩ :=
    RosterEntry.placeholder?_eq_some_iff.mp hentry
  obtain ⟨-, hright, htournament', -⟩ :=
    RosterEntry.placeholder?_eq_some_iff.mp hother
  obtain ⟨hsame, hname⟩ := Prod.mk.inj hkey
  refine hunequal (by rw [htournament, htournament', hsame])
    (by rw [hleft]; rfl) ?_
  rw [hleft, hright, hname]

/-- `downgrade` of revision `75c172c71c39`. -/
def UnifiedRoster.downgrade (unified : UnifiedRoster P) : SplitRoster P where
  polled :=
    ⟨unified.rows.filterMap RosterEntry.polled?,
      polled_keys_nodup unified.profilesUnique⟩
  placeholders :=
    ⟨unified.rows.filterMap RosterEntry.placeholder?,
      placeholder_keys_nodup unified.namesUnique⟩

end Downgrade

section RoundTrip

theorem filterMap_polled_numbered (rows : List (PolledEntry P))
    (entries : List (PolledEntry P)) :
    (entries.map (numberedRow rows)).filterMap RosterEntry.polled? =
      entries := by
  rw [List.filterMap_map]
  exact List.filterMap_some

theorem filterMap_placeholder_numbered (rows : List (PolledEntry P))
    (entries : List (PolledEntry P)) :
    (entries.map (numberedRow rows)).filterMap RosterEntry.placeholder? =
      [] := by
  rw [List.filterMap_map]
  exact List.filterMap_eq_nil_iff.mpr fun _ _ => rfl

theorem filterMap_polled_inserted (id : Int)
    (entries : List (PlaceholderEntry P)) :
    (insertPlaceholders id entries).filterMap RosterEntry.polled? = [] := by
  refine List.filterMap_eq_nil_iff.mpr fun row hrow => ?_
  obtain ⟨-, entry, -, heq⟩ := mem_insertPlaceholders hrow
  rw [heq]
  rfl

theorem filterMap_placeholder_inserted (id : Int)
    (entries : List (PlaceholderEntry P)) :
    (insertPlaceholders id entries).filterMap RosterEntry.placeholder? =
      entries := by
  induction entries generalizing id with
  | nil => rfl
  | cons entry entries ih =>
      rw [insertPlaceholders, List.filterMap_cons, ih]
      rfl

theorem downgrade_upgrade (split : SplitRoster P) :
    split.upgrade.downgrade = split := by
  have hpolled : (numberedRows split ++ joinedRows split).filterMap
      RosterEntry.polled? = split.polled.rows := by
    rw [List.filterMap_append, numberedRows, filterMap_polled_numbered,
      joinedRows, filterMap_polled_inserted, List.append_nil]
  have hplaceholders : (numberedRows split ++ joinedRows split).filterMap
      RosterEntry.placeholder? = split.placeholders.rows := by
    rw [List.filterMap_append, numberedRows, filterMap_placeholder_numbered,
      joinedRows, filterMap_placeholder_inserted, List.nil_append]
  obtain ⟨polled, placeholders⟩ := split
  simp only [SplitRoster.upgrade, UnifiedRoster.downgrade,
    SplitRoster.mk.injEq]
  exact ⟨Table.ext hpolled, Table.ext hplaceholders⟩

/-- What a polled player holds, in one table or the other. -/
def PolledEntry.content (entry : PolledEntry P) :
    Int × Option Int × Option String × P :=
  (entry.tournamentId, some entry.profileId, none, entry.presentation)

/-- What a placeholder holds, in one table or the other. -/
def PlaceholderEntry.content (entry : PlaceholderEntry P) :
    Int × Option Int × Option String × P :=
  (entry.tournamentId, none, some entry.name, entry.presentation)

theorem numberedRows_content (split : SplitRoster P) :
    (numberedRows split).map RosterEntry.content =
      split.polled.rows.map PolledEntry.content := by
  rw [numberedRows, List.map_map]
  rfl

theorem insertPlaceholders_content (id : Int)
    (entries : List (PlaceholderEntry P)) :
    (insertPlaceholders id entries).map RosterEntry.content =
      entries.map PlaceholderEntry.content := by
  induction entries generalizing id with
  | nil => rfl
  | cons entry entries ih =>
      rw [insertPlaceholders, List.map_cons, ih]
      rfl

theorem content_perm_split {rows : List (RosterEntry P)}
    (hone : OneIdentity rows) :
    ((rows.filterMap RosterEntry.polled?).map PolledEntry.content ++
      (rows.filterMap RosterEntry.placeholder?).map
        PlaceholderEntry.content).Perm (rows.map RosterEntry.content) := by
  induction rows with
  | nil => exact List.Perm.refl _
  | cons row rows ih =>
      have hrest := ih fun other hother =>
        hone other (List.mem_cons_of_mem _ hother)
      have hrow := hone row List.mem_cons_self
      obtain ⟨id, tournamentId, profileId, name, presentation⟩ := row
      cases profileId with
      | some profileId =>
          cases name with
          | some name => exact absurd rfl hrow
          | none => exact List.Perm.cons _ hrest
      | none =>
          cases name with
          | none => exact absurd rfl hrow
          | some name =>
              exact List.perm_middle.trans (List.Perm.cons _ hrest)

theorem upgrade_downgrade (unified : UnifiedRoster P) :
    (unified.downgrade.upgrade.rows.map RosterEntry.content).Perm
      (unified.rows.map RosterEntry.content) := by
  have hcontent : unified.downgrade.upgrade.rows.map RosterEntry.content =
      (unified.rows.filterMap RosterEntry.polled?).map PolledEntry.content ++
        (unified.rows.filterMap RosterEntry.placeholder?).map
          PlaceholderEntry.content := by
    rw [SplitRoster.upgrade, List.map_append, numberedRows_content,
      joinedRows, insertPlaceholders_content]
    rfl
  rw [hcontent]
  exact content_perm_split unified.oneIdentity

theorem numberedRows_perm {split other : SplitRoster P}
    (hperm : split.polled.rows.Perm other.polled.rows) :
    (numberedRows split).Perm (numberedRows other) := by
  have hrow : numberedRow split.polled.rows =
      numberedRow other.polled.rows := by
    funext entry
    rw [numberedRow, rowNumber, rank, hperm.countP_eq]
    rfl
  rw [numberedRows, numberedRows, hrow]
  exact hperm.map _

theorem polled_of_upgrade (split : SplitRoster P) :
    (split.upgrade.rows.filter fun row => row.profileId.isSome) =
      numberedRows split := by
  have hnumbered : (numberedRows split).filter
      (fun row => row.profileId.isSome) = numberedRows split := by
    refine List.filter_eq_self.mpr fun row hrow => ?_
    obtain ⟨entry, -, rfl⟩ := mem_numberedRows hrow
    rfl
  have hjoined : (joinedRows split).filter
      (fun row => row.profileId.isSome) = [] := by
    refine List.filter_eq_nil_iff.mpr fun row hrow => ?_
    rw [joinedRows_profile hrow]
    exact Bool.false_ne_true
  rw [SplitRoster.upgrade, List.filter_append, hnumbered, hjoined,
    List.append_nil]

end RoundTrip

/-- Unifying the roster loses nothing either way: a downgrade gives back both
tables, upgrading what a downgrade left gives back every row under some id, and
equal tables get equal numbers, whatever the order of their rows. -/
theorem roster_unification_round_trip (split other : SplitRoster P)
    (unified : UnifiedRoster P)
    (hsame : split.polled.rows.Perm other.polled.rows) :
    split.upgrade.downgrade = split ∧
      (unified.downgrade.upgrade.rows.map RosterEntry.content).Perm
        (unified.rows.map RosterEntry.content) ∧
      (split.upgrade.rows.filter fun row => row.profileId.isSome).Perm
        (other.upgrade.rows.filter fun row => row.profileId.isSome) := by
  refine ⟨downgrade_upgrade split, upgrade_downgrade unified, ?_⟩
  rw [polled_of_upgrade, polled_of_upgrade]
  exact numberedRows_perm hsame

/-- Two polled players and one placeholder. -/
def polledThenPlaceholder : SplitRoster Unit where
  polled := ⟨[⟨1, 9, ()⟩, ⟨1, 4, ()⟩], by decide⟩
  placeholders := ⟨[⟨1, "TBD", ()⟩], by decide⟩

theorem roster_unification_round_trip_placeholder :
    polledThenPlaceholder.upgrade.downgrade = polledThenPlaceholder ∧
      polledThenPlaceholder.upgrade.rows.map (·.id) = [2, 1, 3] :=
  ⟨(roster_unification_round_trip polledThenPlaceholder
    polledThenPlaceholder polledThenPlaceholder.upgrade
      (List.Perm.refl _)).1, by decide⟩

end LiveStandings
