/-
The migrations that re-key the members of teams, from the profile to the row
of the roster.  Three steps, so that two revisions can write while the key
moves; the steps back recover the profile from the roster.
-/
import LiveStandings.RosterUnification

namespace LiveStandings

open Fallible KeyedTable PyJson

variable {P : Type}

/-- `team_members` at revision `bd2d6eef00e8`. -/
structure FormerMember where
  teamId : Int
  profileId : Int
  isCaptain : Bool

def FormerMember.key (row : FormerMember) : Int × Int :=
  (row.teamId, row.profileId)

/-- The same after the expand step. -/
structure DualMember where
  teamId : Int
  profileId : Int
  tournamentPlayerId : Option Int
  isCaptain : Bool

def DualMember.key (row : DualMember) : Int × Int :=
  (row.teamId, row.profileId)

/-- The same after the transition step. -/
structure KeyedMember where
  teamId : Int
  tournamentPlayerId : Int
  profileId : Option Int
  isCaptain : Bool

def KeyedMember.key (row : KeyedMember) : Int × Int :=
  (row.teamId, row.tournamentPlayerId)

/-- `create_primary_key`. -/
def addPrimaryKey {R : Type} (key : R → Int × Int) (rows : List R) :
    Except PyError (Table key) :=
  if hkeys : (rows.map key).Nodup then .ok ⟨rows, hkeys⟩
  else .error .integrityError

/-- `tp.tournament_id = t.tournament_id AND tp.profile_id = tm.profile_id`. -/
def isEntryOf (team : Team) (profileId : Int) (entry : RosterEntry P) : Bool :=
  decide (entry.tournamentId = team.tournamentId ∧
    entry.profileId = some profileId)

/-- The row of the team's tournament the profile is on the roster with. -/
def rosterId (teams : Table Team.id) (roster : UnifiedRoster P)
    (teamId profileId : Int) : Option Int := do
  let team ← teams.find? teamId
  let entry ← roster.rows.find? (isEntryOf team profileId)
  return entry.id

/-- The profile of a roster row. -/
def profileOf (roster : UnifiedRoster P) (id : Int) : Option Int := do
  let entry ← roster.rows.find? fun entry => decide (entry.id = id)
  entry.profileId

section Upgrades

variable (teams : Table Team.id) (roster : UnifiedRoster P)

/-- `upgrade` of revision `f812a0b45583`. -/
def expandMembers (members : Table FormerMember.key) :
    Table DualMember.key where
  rows := members.rows.map fun row =>
    ⟨row.teamId, row.profileId,
      rosterId teams roster row.teamId row.profileId, row.isCaptain⟩
  keys_nodup := by
    rw [List.map_map]
    exact members.keys_nodup

/-- The backfill of what the previous revision left null. -/
def backfillEntry (row : DualMember) : DualMember :=
  match row.tournamentPlayerId with
  | some _ => row
  | none =>
      { row with tournamentPlayerId :=
          rosterId teams roster row.teamId row.profileId }

/-- `tournament_player_id` becomes `NOT NULL`, `profile_id` nullable. -/
def requireEntry (row : DualMember) : Except PyError KeyedMember :=
  match row.tournamentPlayerId with
  | some id => .ok ⟨row.teamId, id, some row.profileId, row.isCaptain⟩
  | none => .error .integrityError

/-- `upgrade` of revision `fd4a4e26ec02`. -/
def transitionMembers (members : Table DualMember.key) :
    Except PyError (Table KeyedMember.key) := do
  let backfilled := members.rows.map (backfillEntry teams roster)
  let rows ← backfilled.mapM requireEntry
  addPrimaryKey KeyedMember.key rows

/-- `upgrade` of revision `cb051bd9d638`. -/
def contractMembers (members : Table KeyedMember.key) :
    Table TeamMember.key where
  rows := members.rows.map fun row =>
    ⟨row.teamId, row.tournamentPlayerId, row.isCaptain⟩
  keys_nodup := by
    rw [List.map_map]
    exact members.keys_nodup

end Upgrades

section Downgrades

/-- `downgrade` of revision `cb051bd9d638`. -/
def restoreProfiles (roster : UnifiedRoster P)
    (members : Table TeamMember.key) : Table KeyedMember.key where
  rows := members.rows.map fun row =>
    ⟨row.teamId, row.tournamentPlayerId,
      profileOf roster row.tournamentPlayerId, row.isCaptain⟩
  keys_nodup := by
    rw [List.map_map]
    exact members.keys_nodup

/-- A row under its former key, if it has a profile. -/
def KeyedMember.dual? (row : KeyedMember) : Option DualMember :=
  row.profileId.map fun profileId =>
    ⟨row.teamId, profileId, some row.tournamentPlayerId, row.isCaptain⟩

/-- `downgrade` of revision `fd4a4e26ec02`: the rows without a profile are
deleted, and the others get back their key. -/
def restoreKey (members : Table KeyedMember.key) :
    Except PyError (Table DualMember.key) :=
  addPrimaryKey DualMember.key (members.rows.filterMap KeyedMember.dual?)

/-- `downgrade` of revision `f812a0b45583`. -/
def dropEntries (members : Table DualMember.key) : Table FormerMember.key where
  rows := members.rows.map fun row =>
    ⟨row.teamId, row.profileId, row.isCaptain⟩
  keys_nodup := by
    rw [List.map_map]
    exact members.keys_nodup

end Downgrades

section Joins

variable {teams : Table Team.id} {roster : UnifiedRoster P}
  {teamId profileId id : Int}

theorem UnifiedRoster.eq_of_profile (roster : UnifiedRoster P)
    {left right : RosterEntry P} (hleft : left ∈ roster.rows)
    (hright : right ∈ roster.rows)
    (htournament : left.tournamentId = right.tournamentId)
    (hprofile : left.profileId = some profileId)
    (hprofile' : right.profileId = some profileId) : left = right := by
  refine List.Pairwise.forall_of_forall_of_flip
    (R := fun left right => left.tournamentId = right.tournamentId →
      left.profileId = some profileId → right.profileId = some profileId →
        left = right) (fun _ _ _ _ _ => rfl) ?_ ?_
    hleft hright htournament hprofile hprofile'
  · refine roster.profilesUnique.imp ?_
    intro left right hunequal hsame hprofile hprofile'
    exact absurd (hprofile.trans hprofile'.symm)
      (hunequal hsame (by rw [hprofile]; rfl))
  · refine roster.profilesUnique.imp ?_
    intro left right hunequal hsame hprofile' hprofile
    exact absurd (hprofile.trans hprofile'.symm)
      (hunequal hsame.symm (by rw [hprofile]; rfl))

theorem isEntryOf_iff {team : Team} {entry : RosterEntry P} :
    isEntryOf team profileId entry = true ↔
      entry.tournamentId = team.tournamentId ∧
        entry.profileId = some profileId :=
  decide_eq_true_iff

theorem rosterId_eq_some_iff :
    rosterId teams roster teamId profileId = some id ↔
      ∃ team ∈ teams.rows, team.id = teamId ∧ ∃ entry ∈ roster.rows,
        entry.tournamentId = team.tournamentId ∧
          entry.profileId = some profileId ∧ entry.id = id := by
  simp only [rosterId, Option.bind_eq_bind, Option.bind_eq_some_iff,
    Option.pure_def, Option.some.injEq]
  constructor
  · rintro ⟨team, hteam, entry, hentry, hid⟩
    obtain ⟨htournament, hprofile⟩ :=
      isEntryOf_iff.mp (List.find?_some hentry)
    exact ⟨team, teams.mem_of_find? hteam, teams.key_of_find? hteam, entry,
      List.mem_of_find?_eq_some hentry, htournament, hprofile, hid⟩
  · rintro ⟨team, hteam, hkey, entry, hentry, htournament, hprofile, hid⟩
    refine ⟨team, (teams.find?_eq_some_iff).mpr ⟨hteam, hkey⟩, ?_⟩
    cases hfind : roster.rows.find? (isEntryOf team profileId) with
    | none =>
        have hnot := List.find?_eq_none.mp hfind entry hentry
        exact absurd (isEntryOf_iff.mpr ⟨htournament, hprofile⟩) hnot
    | some found =>
        obtain ⟨htournament', hprofile'⟩ :=
          isEntryOf_iff.mp (List.find?_some hfind)
        have hsame := roster.eq_of_profile
          (List.mem_of_find?_eq_some hfind) hentry
          (htournament'.trans htournament.symm) hprofile' hprofile
        exact ⟨found, rfl, hsame ▸ hid⟩

theorem profileOf_eq_some_iff :
    profileOf roster id = some profileId ↔
      ∃ entry ∈ roster.rows, entry.id = id ∧
        entry.profileId = some profileId := by
  have hfind (entry : RosterEntry P) := @Table.find?_eq_some_iff _ _ _ _
    (⟨roster.rows, roster.ids⟩ : Table (RosterEntry.id (P := P))) id entry
  simp only [profileOf, Option.bind_eq_bind, Option.bind_eq_some_iff]
  constructor
  · rintro ⟨entry, hentry, hprofile⟩
    obtain ⟨hmem, hid⟩ := (hfind entry).mp hentry
    exact ⟨entry, hmem, hid, hprofile⟩
  · rintro ⟨entry, hmem, hid, hprofile⟩
    exact ⟨entry, (hfind entry).mpr ⟨hmem, hid⟩, hprofile⟩

theorem profileOf_rosterId
    (hid : rosterId teams roster teamId profileId = some id) :
    profileOf roster id = some profileId := by
  obtain ⟨_, _, _, entry, hentry, _, hprofile, hsame⟩ :=
    rosterId_eq_some_iff.mp hid
  exact profileOf_eq_some_iff.mpr ⟨entry, hentry, hsame, hprofile⟩

end Joins

/-- Between the first two steps one revision leaves the new column null, and
the other writes the roster row of the profile beside it. -/
def DualWritten (teams : Table Team.id) (roster : UnifiedRoster P)
    (members : Table DualMember.key) : Prop :=
  ∀ row ∈ members.rows, ∀ id ∈ row.tournamentPlayerId,
    rosterId teams roster row.teamId row.profileId = some id

/-- After the last step a member is a roster row of the team's tournament. -/
def Rostered (teams : Table Team.id) (roster : UnifiedRoster P)
    (members : Table TeamMember.key) : Prop :=
  ∀ row ∈ members.rows, ∃ team ∈ teams.rows, team.id = row.teamId ∧
    ∃ entry ∈ roster.rows, entry.tournamentId = team.tournamentId ∧
      entry.id = row.tournamentPlayerId

theorem addPrimaryKey_eq_ok_iff {R : Type} {key : R → Int × Int}
    {rows : List R} {table : Table key} :
    addPrimaryKey key rows = .ok table ↔ table.rows = rows := by
  rw [addPrimaryKey]
  constructor
  · intro hadd
    split at hadd
    · cases hadd
      rfl
    · cases hadd
  · rintro rfl
    rw [dif_pos table.keys_nodup]

section Transition

variable {teams : Table Team.id} {roster : UnifiedRoster P}
  {members : Table DualMember.key} {keyed : Table KeyedMember.key}

/-- A member of the old table under its new key. -/
structure Rekeyed (teams : Table Team.id) (roster : UnifiedRoster P)
    (row : DualMember) (keyed : KeyedMember) : Prop where
  team : keyed.teamId = row.teamId
  entry : rosterId teams roster row.teamId row.profileId =
    some keyed.tournamentPlayerId
  profile : keyed.profileId = some row.profileId
  captain : keyed.isCaptain = row.isCaptain

/-- What the transition makes of one row. -/
def rekey (teams : Table Team.id) (roster : UnifiedRoster P)
    (row : DualMember) : Except PyError KeyedMember :=
  requireEntry (backfillEntry teams roster row)

theorem rekey_eq_ok_iff {row : DualMember} {result : KeyedMember}
    (hdual : ∀ id ∈ row.tournamentPlayerId,
      rosterId teams roster row.teamId row.profileId = some id) :
    rekey teams roster row = .ok result ↔
      Rekeyed teams roster row result := by
  have hentry : (backfillEntry teams roster row) =
      { row with tournamentPlayerId :=
          rosterId teams roster row.teamId row.profileId } := by
    obtain ⟨teamId, profileId, entryId, isCaptain⟩ := row
    cases entryId with
    | none => rfl
    | some id => exact congrArg (DualMember.mk _ _ · _) (hdual id rfl).symm
  rw [rekey, hentry, requireEntry]
  obtain ⟨teamId, entryId, profileId, isCaptain⟩ := result
  constructor
  · intro hrequire
    split at hrequire
    next id hid =>
      cases hrequire
      exact ⟨rfl, hid, rfl, rfl⟩
    next => cases hrequire
  · rintro ⟨hteam, hid, hprofile, hcaptain⟩
    simp only at hteam hid hprofile hcaptain
    simp only [hid, hteam, hprofile, hcaptain]

theorem transitionMembers_eq_ok_iff :
    transitionMembers teams roster members = .ok keyed ↔
      members.rows.mapM (rekey teams roster) = .ok keyed.rows := by
  rw [transitionMembers, List.mapM_map, bind_eq_ok]
  constructor
  · rintro ⟨rows, hrows, hadd⟩
    rw [addPrimaryKey_eq_ok_iff.mp hadd]
    exact hrows
  · intro hrows
    exact ⟨keyed.rows, hrows, addPrimaryKey_eq_ok_iff.mpr rfl⟩

theorem rekeyed_keys_nodup (hdual : DualWritten teams roster members)
    {results : List KeyedMember}
    (hrows : members.rows.mapM (rekey teams roster) = .ok results) :
    (results.map KeyedMember.key).Nodup := by
  have hback : results.map ((Prod.map id (profileOf roster)) ∘
      KeyedMember.key) =
        members.rows.map ((Prod.map id some) ∘ DualMember.key) := by
    refine map_eq_map_of_mapM hrows fun row hrow result hresult => ?_
    have hrekeyed := (rekey_eq_ok_iff (hdual row hrow)).mp hresult
    exact Prod.ext hrekeyed.team (profileOf_rosterId hrekeyed.entry)
  have hkeys : (members.rows.map
      ((Prod.map id some) ∘ DualMember.key)).Nodup := by
    rw [← List.map_map]
    exact members.keys_nodup.map
      (Function.Injective.prodMap Function.injective_id
        (Option.some_injective _))
  rw [← hback, ← List.map_map] at hkeys
  exact List.Nodup.of_map _ hkeys

theorem transitionMembers_ok_iff (hdual : DualWritten teams roster members) :
    (∃ keyed, transitionMembers teams roster members = .ok keyed) ↔
      ∀ row ∈ members.rows,
        (rosterId teams roster row.teamId row.profileId).isSome := by
  constructor
  · rintro ⟨keyed, hkeyed⟩ row hrow
    obtain ⟨result, -, hresult⟩ :=
      mem_of_mapM (transitionMembers_eq_ok_iff.mp hkeyed) hrow
    rw [((rekey_eq_ok_iff (hdual row hrow)).mp hresult).entry]
    rfl
  · intro hsome
    obtain ⟨results, hrows⟩ := mapM_ok_iff.mpr fun row hrow => by
      obtain ⟨id, hid⟩ := Option.isSome_iff_exists.mp (hsome row hrow)
      exact ⟨⟨row.teamId, id, some row.profileId, row.isCaptain⟩,
        (rekey_eq_ok_iff (hdual row hrow)).mpr ⟨rfl, hid, rfl, rfl⟩⟩
    exact ⟨⟨results, rekeyed_keys_nodup hdual hrows⟩,
      transitionMembers_eq_ok_iff.mpr hrows⟩

/-- Down again, the members are what they were, with the column the expand
step backfills. -/
theorem restoreKey_transition (hdual : DualWritten teams roster members)
    (hkeyed : transitionMembers teams roster members = .ok keyed) :
    restoreKey (restoreProfiles roster (contractMembers keyed)) =
      .ok (expandMembers teams roster (dropEntries members)) := by
  have hrows : keyed.rows.map (fun row =>
      KeyedMember.dual? ⟨row.teamId, row.tournamentPlayerId,
        profileOf roster row.tournamentPlayerId, row.isCaptain⟩) =
      members.rows.map fun row => some
        ⟨row.teamId, row.profileId,
          rosterId teams roster row.teamId row.profileId, row.isCaptain⟩ := by
    refine map_eq_map_of_mapM (transitionMembers_eq_ok_iff.mp hkeyed)
      fun row hrow result hresult => ?_
    have hrekeyed := (rekey_eq_ok_iff (hdual row hrow)).mp hresult
    rw [KeyedMember.dual?, profileOf_rosterId hrekeyed.entry, Option.map_some,
      hrekeyed.entry, hrekeyed.team, hrekeyed.captain]
  rw [restoreKey, addPrimaryKey_eq_ok_iff]
  simp only [expandMembers, dropEntries, restoreProfiles, contractMembers,
    List.map_map, List.filterMap_map]
  have hpick := congrArg (List.filterMap id) hrows
  rw [List.filterMap_map, List.filterMap_map] at hpick
  exact (congrFun List.filterMap_eq_map members.rows).symm.trans hpick.symm

end Transition

section Restored

variable {teams : Table Team.id} {roster : UnifiedRoster P}
  {current : Table TeamMember.key}

theorem rosterId_profileOf (hcurrent : Rostered teams roster current)
    {row : TeamMember} (hrow : row ∈ current.rows) {profileId : Int}
    (hprofile : profileOf roster row.tournamentPlayerId = some profileId) :
    rosterId teams roster row.teamId profileId =
      some row.tournamentPlayerId := by
  obtain ⟨team, hteam, hid, entry, hentry, htournament, hkey⟩ :=
    hcurrent row hrow
  obtain ⟨other, hother, hkey', hprofile'⟩ :=
    profileOf_eq_some_iff.mp hprofile
  have hsame : other = entry :=
    List.inj_on_of_nodup_map roster.ids hother hentry (hkey'.trans hkey.symm)
  exact rosterId_eq_some_iff.mpr
    ⟨team, hteam, hid, entry, hentry, htournament, hsame ▸ hprofile', hkey⟩

/-- A restored row under its former key, and what it was. -/
theorem dual?_eq_some (hcurrent : Rostered teams roster current)
    {row : KeyedMember} (hrow : row ∈ (restoreProfiles roster current).rows)
    {dual : DualMember} (hdual : row.dual? = some dual) :
    dual.teamId = row.teamId ∧
      dual.tournamentPlayerId = some row.tournamentPlayerId ∧
      rosterId teams roster dual.teamId dual.profileId =
        some row.tournamentPlayerId ∧
      rekey teams roster dual = .ok row := by
  obtain ⟨member, hmember, rfl⟩ := List.mem_map.mp hrow
  obtain ⟨profileId, hprofile, rfl⟩ := Option.map_eq_some_iff.mp hdual
  have hprofile : profileOf roster member.tournamentPlayerId =
    some profileId := hprofile
  refine ⟨rfl, rfl, rosterId_profileOf hcurrent hmember hprofile, ?_⟩
  rw [hprofile]
  rfl

theorem restored_keys_nodup (hcurrent : Rostered teams roster current) :
    (((restoreProfiles roster current).rows.filterMap
      KeyedMember.dual?).map DualMember.key).Nodup := by
  refine List.pairwise_map.mpr (List.pairwise_filterMap.mpr ?_)
  have hkeys := List.pairwise_map.mp (restoreProfiles roster current).keys_nodup
  refine hkeys.imp_of_mem ?_
  intro left right hleft hright hunequal dual hdual dual' hdual' hkey
  obtain ⟨hteam, -, hid, -⟩ := dual?_eq_some hcurrent hleft hdual
  obtain ⟨hteam', -, hid', -⟩ := dual?_eq_some hcurrent hright hdual'
  obtain ⟨hsame, hprofile⟩ := Prod.mk.inj hkey
  rw [hsame, hprofile, hid'] at hid
  exact hunequal (Prod.ext (hteam.symm.trans (hsame.trans hteam'))
    (Option.some.inj hid).symm)

/-- The whole way down and up again keeps the members with a profile. -/
theorem restoreKey_current (hcurrent : Rostered teams roster current) :
    ∃ dual keyed,
      restoreKey (restoreProfiles roster current) = .ok dual ∧
        transitionMembers teams roster
          (expandMembers teams roster (dropEntries dual)) = .ok keyed ∧
        contractMembers keyed = current.keepWhere fun row =>
          (profileOf roster row.tournamentPlayerId).isSome := by
  let restored := restoreProfiles roster current
  let dual : Table DualMember.key :=
    ⟨restored.rows.filterMap KeyedMember.dual?, restored_keys_nodup hcurrent⟩
  have hsame : expandMembers teams roster (dropEntries dual) = dual := by
    refine Table.ext ?_
    simp only [expandMembers, dropEntries, List.map_map]
    refine (List.map_congr_left fun row hrow => ?_).trans (List.map_id _)
    obtain ⟨keyed, hkeyed, hdual⟩ := List.mem_filterMap.mp hrow
    obtain ⟨-, hid, hroster, -⟩ := dual?_eq_some hcurrent hkeyed hdual
    obtain ⟨teamId, profileId, entryId, isCaptain⟩ := row
    simp only at hid hroster
    simp only [Function.comp_apply, id_eq, hid, hroster]
  refine ⟨dual, restored.keepWhere fun row => row.dual?.isSome,
    addPrimaryKey_eq_ok_iff.mpr rfl, ?_, ?_⟩
  · rw [hsame, transitionMembers_eq_ok_iff]
    exact mapM_filterMap fun row hrow value hvalue =>
      (dual?_eq_some hcurrent hrow hvalue).2.2.2
  · refine Table.ext ?_
    simp only [contractMembers, Table.rows_keepWhere, restored,
      restoreProfiles, List.filter_map, List.map_map]
    refine (List.map_congr_left fun row hrow => ?_).trans
      ((List.map_id _).trans (List.filter_congr fun row hrow => ?_))
    · rfl
    · rw [Function.comp_apply, KeyedMember.dual?, Option.isSome_map]

end Restored

/-- The re-key and its way back: a table both revisions wrote goes up exactly
where every member's profile is on the roster of the team's tournament, and
comes down as the expand step leaves its members, with the entries one revision
left null filled in; members that were written since go down as far as their
roster row has a profile, and up again as the same members. -/
theorem member_rekey_round_trip (teams : Table Team.id)
    (roster : UnifiedRoster P) (members : Table DualMember.key)
    (hdual : DualWritten teams roster members)
    (current : Table TeamMember.key)
    (hcurrent : Rostered teams roster current) :
    ((∃ keyed, transitionMembers teams roster members = .ok keyed) ↔
        ∀ row ∈ members.rows,
          (rosterId teams roster row.teamId row.profileId).isSome) ∧
      (∀ keyed, transitionMembers teams roster members = .ok keyed →
        restoreKey (restoreProfiles roster (contractMembers keyed)) =
          .ok (expandMembers teams roster (dropEntries members))) ∧
      ∃ dual keyed,
        restoreKey (restoreProfiles roster current) = .ok dual ∧
          transitionMembers teams roster
            (expandMembers teams roster (dropEntries dual)) = .ok keyed ∧
          contractMembers keyed = current.keepWhere fun row =>
            (profileOf roster row.tournamentPlayerId).isSome :=
  ⟨transitionMembers_ok_iff hdual, fun _ => restoreKey_transition hdual,
    restoreKey_current hcurrent⟩

/-- One team, and a roster of a polled player and a placeholder. -/
def oneTeam : Table Team.id := ⟨[⟨1, 1, "Red", "R"⟩], by decide⟩

def polledAndPlaceholder : UnifiedRoster Unit where
  rows := [⟨3, 1, some 9, none, ()⟩, ⟨4, 1, none, some "TBD", ()⟩]
  ids := by decide
  oneIdentity := by decide
  profilesUnique := by decide
  namesUnique := by decide

/-- A member the previous revision wrote. -/
def formerMembers : Table DualMember.key := ⟨[⟨1, 9, none, true⟩], by decide⟩

def bothMembers : Table TeamMember.key :=
  ⟨[⟨1, 3, true⟩, ⟨1, 4, false⟩], by decide⟩

theorem member_rekey_round_trip_placeholder :
    (∃ keyed, transitionMembers oneTeam polledAndPlaceholder formerMembers =
      .ok keyed) ∧
      ∃ dual keyed,
        restoreKey (restoreProfiles polledAndPlaceholder bothMembers) =
          .ok dual ∧
        transitionMembers oneTeam polledAndPlaceholder
          (expandMembers oneTeam polledAndPlaceholder (dropEntries dual)) =
            .ok keyed ∧
        contractMembers keyed = bothMembers.keepWhere fun row =>
          (profileOf polledAndPlaceholder row.tournamentPlayerId).isSome := by
  have hboth := member_rekey_round_trip oneTeam polledAndPlaceholder
    formerMembers (by unfold DualWritten; decide) bothMembers
      (by unfold Rostered; decide)
  exact ⟨hboth.1.mpr (by decide), hboth.2.2⟩

end LiveStandings
