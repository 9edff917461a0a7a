/-
What the management tables keep.  Every route is inverted once, into the rows
it leaves; the invariant is carried through each of them, and from the single
step through every run.
-/
import LiveStandings.Library.Fallible
import LiveStandings.ManagementCalls

namespace LiveStandings

open KeyedTable PyJson Runs Fallible

/-- `uq_tournament_players_tournament_id_profile_id`; nulls are distinct. -/
abbrev UniqueProfiles (entries : Table TournamentPlayer.id) : Prop :=
  ∀ left ∈ entries.rows, ∀ right ∈ entries.rows,
    left.tournamentId = right.tournamentId →
      left.profileId = right.profileId → left.profileId ≠ none →
        left.id = right.id

/-- What every reachable management state satisfies: ids come from the
sequences, memberships stay inside one tournament, a team has one captain, a
roster has no double name or profile, a tournament has an owner. -/
structure Managed (registry : Registry) : Prop where
  tournament_id : ∀ t ∈ registry.db.tournaments.rows,
    t.id ≤ registry.lastTournamentId
  entry_id : ∀ entry ∈ registry.db.tournamentPlayers.rows,
    entry.id ≤ registry.lastTournamentPlayerId
  team_id : ∀ team ∈ registry.db.teams.rows, team.id ≤ registry.lastTeamId
  member_team : ∀ row ∈ registry.db.teamMembers.rows,
    ∃ team ∈ registry.db.teams.rows, team.id = row.teamId
  member_entry : ∀ row ∈ registry.db.teamMembers.rows,
    ∃ entry ∈ registry.db.tournamentPlayers.rows,
      entry.id = row.tournamentPlayerId
  member_tournament : ∀ row ∈ registry.db.teamMembers.rows,
    ∀ team ∈ registry.db.teams.rows,
      ∀ entry ∈ registry.db.tournamentPlayers.rows, row.teamId = team.id →
        row.tournamentPlayerId = entry.id →
          entry.tournamentId = team.tournamentId
  captain_unique : ∀ left ∈ registry.db.teamMembers.rows,
    ∀ right ∈ registry.db.teamMembers.rows, left.teamId = right.teamId →
      left.isCaptain = true → right.isCaptain = true → left = right
  name_unique : UniqueNames registry.db.tournamentPlayers
  profile_unique : UniqueProfiles registry.db.tournamentPlayers
  owned : ∀ t ∈ registry.db.tournaments.rows,
    ∃ owner ∈ registry.db.tournamentOwners.rows, owner.tournamentId = t.id

/-- Entries that are on the roster before and after keep their link. -/
def LinksKept (before after : Database) : Prop :=
  ∀ entry ∈ before.tournamentPlayers.rows,
    ∀ entry' ∈ after.tournamentPlayers.rows, entry'.id = entry.id →
      entry.profileId.isSome → entry'.profileId = entry.profileId

/-- What a successful handler keeps. -/
structure Keeps (registry registry' : Registry) : Prop where
  managed : Managed registry'
  links : LinksKept registry.db registry'.db

theorem LinksKept.of_eq {before after : Database}
    (hroster : after.tournamentPlayers = before.tournamentPlayers) :
    LinksKept before after := by
  intro entry hentry entry' hentry' hid _
  rw [hroster] at hentry'
  rw [before.tournamentPlayers.eq_of_key_eq hentry' hentry hid]

theorem LinksKept.of_subset {before after : Database}
    (hroster : ∀ entry ∈ after.tournamentPlayers.rows,
      entry ∈ before.tournamentPlayers.rows) : LinksKept before after := by
  intro entry hentry entry' hentry' hid _
  rw [before.tournamentPlayers.eq_of_key_eq (hroster entry' hentry') hentry hid]

theorem Managed.congr {registry registry' : Registry}
    (hmanaged : Managed registry) (hsame : SameManagement registry registry') :
    Managed registry' := by
  constructor
  · rw [hsame.tournaments, hsame.lastTournamentId]
    exact hmanaged.tournament_id
  · rw [hsame.roster, hsame.lastTournamentPlayerId]
    exact hmanaged.entry_id
  · rw [hsame.teams, hsame.lastTeamId]
    exact hmanaged.team_id
  · rw [hsame.members, hsame.teams]
    exact hmanaged.member_team
  · rw [hsame.members, hsame.roster]
    exact hmanaged.member_entry
  · rw [hsame.members, hsame.teams, hsame.roster]
    exact hmanaged.member_tournament
  · rw [hsame.members]
    exact hmanaged.captain_unique
  · rw [hsame.roster]
    exact hmanaged.name_unique
  · rw [hsame.roster]
    exact hmanaged.profile_unique
  · rw [hsame.tournaments, hsame.owners]
    exact hmanaged.owned

/-- Rows were only deleted. -/
structure Shrinks (registry registry' : Registry) : Prop where
  tournaments : ∀ t ∈ registry'.db.tournaments.rows,
    t ∈ registry.db.tournaments.rows
  roster : ∀ entry ∈ registry'.db.tournamentPlayers.rows,
    entry ∈ registry.db.tournamentPlayers.rows
  teams : ∀ team ∈ registry'.db.teams.rows, team ∈ registry.db.teams.rows
  members : ∀ row ∈ registry'.db.teamMembers.rows,
    row ∈ registry.db.teamMembers.rows
  lastTournamentId : registry'.lastTournamentId = registry.lastTournamentId
  lastTournamentPlayerId :
    registry'.lastTournamentPlayerId = registry.lastTournamentPlayerId
  lastTeamId : registry'.lastTeamId = registry.lastTeamId

/-- A deletion keeps what is said of all rows; what is left to show is that it
left no reference dangling and no tournament without an owner. -/
theorem Managed.shrink {registry registry' : Registry}
    (hmanaged : Managed registry) (hshrinks : Shrinks registry registry')
    (hteam : ∀ row ∈ registry'.db.teamMembers.rows,
      ∀ team ∈ registry.db.teams.rows, team.id = row.teamId →
        team ∈ registry'.db.teams.rows)
    (hentry : ∀ row ∈ registry'.db.teamMembers.rows,
      ∀ entry ∈ registry.db.tournamentPlayers.rows,
        entry.id = row.tournamentPlayerId →
          entry ∈ registry'.db.tournamentPlayers.rows)
    (howned : ∀ t ∈ registry'.db.tournaments.rows,
      ∃ owner ∈ registry'.db.tournamentOwners.rows,
        owner.tournamentId = t.id) : Keeps registry registry' := by
  refine ⟨?_, .of_subset hshrinks.roster⟩
  constructor
  · rw [hshrinks.lastTournamentId]
    exact fun t ht => hmanaged.tournament_id t (hshrinks.tournaments t ht)
  · rw [hshrinks.lastTournamentPlayerId]
    exact fun entry hmem => hmanaged.entry_id entry (hshrinks.roster entry hmem)
  · rw [hshrinks.lastTeamId]
    exact fun team hmem => hmanaged.team_id team (hshrinks.teams team hmem)
  · intro row hrow
    obtain ⟨team, hmem, hid⟩ :=
      hmanaged.member_team row (hshrinks.members row hrow)
    exact ⟨team, hteam row hrow team hmem hid, hid⟩
  · intro row hrow
    obtain ⟨entry, hmem, hid⟩ :=
      hmanaged.member_entry row (hshrinks.members row hrow)
    exact ⟨entry, hentry row hrow entry hmem hid, hid⟩
  · exact fun row hrow team hteam entry hentry =>
      hmanaged.member_tournament row (hshrinks.members row hrow) team
        (hshrinks.teams team hteam) entry (hshrinks.roster entry hentry)
  · exact fun left hleft right hright =>
      hmanaged.captain_unique left (hshrinks.members left hleft) right
        (hshrinks.members right hright)
  · exact fun left hleft right hright =>
      hmanaged.name_unique left (hshrinks.roster left hleft) right
        (hshrinks.roster right hright)
  · exact fun left hleft right hright =>
      hmanaged.profile_unique left (hshrinks.roster left hleft) right
        (hshrinks.roster right hright)
  · exact howned

section Routes

variable {registry registry' : Registry} {response : Response}

/-- `create_tournament` adds a tournament and its first owner. -/
theorem createTournamentRow_ok {platform : Platform} {userId : String}
    {payload : TournamentCreate}
    (hok : createTournamentRow platform userId payload registry =
      .ok (response, registry')) :
    response.status = 201 ∧
      requireOrderedWindow payload.startDate payload.endDate = .ok () ∧
      registry' = { registry with
        lastTournamentId := registry.lastTournamentId + 1
        db := { registry.db with
          tournaments := registry.db.tournaments.insertNew
            (tournamentOf payload (registry.lastTournamentId + 1) registry.now)
          tournamentOwners := registry.db.tournamentOwners.insertNew
            ⟨registry.lastTournamentId + 1, userId, registry.now⟩ } } := by
  unfold createTournamentRow createTournament at hok
  simp only at hok
  split at hok
  · cases hok
  · split at hok
    · cases hok
    · cases hwindow : requireOrderedWindow payload.startDate
        payload.endDate with
      | error raised =>
          rw [hwindow] at hok
          cases hok
      | ok _ =>
          cases hboard : requireSupportedLeaderboard registry.db
            payload.leaderboardId with
          | error raised =>
              rw [hwindow, hboard] at hok
              cases hok
          | ok _ =>
              rw [hwindow, hboard] at hok
              simp only [bind, Except.bind] at hok
              split at hok
              · cases hok
              · cases hok
                exact ⟨rfl, rfl, rfl⟩

theorem createTournamentRow_keeps {platform : Platform} {userId : String}
    {payload : TournamentCreate} (hmanaged : Managed registry)
    (hok : createTournamentRow platform userId payload registry =
      .ok (response, registry')) : Keeps registry registry' := by
  obtain ⟨_, _, rfl⟩ := createTournamentRow_ok hok
  refine ⟨{ hmanaged with tournament_id := ?_, owned := ?_ }, .of_eq rfl⟩
  · intro t ht
    rcases (Table.mem_insertNew _).mp ht with hold | ⟨rfl, _⟩
    · exact le_trans (hmanaged.tournament_id t hold) (Int.le_add_one le_rfl)
    · exact le_rfl
  · intro t ht
    rcases (Table.mem_insertNew _).mp ht with hold | ⟨rfl, _⟩
    · obtain ⟨owner, howner, hid⟩ := hmanaged.owned t hold
      exact ⟨owner, (Table.mem_insertNew _).mpr (Or.inl howner), hid⟩
    · have hfind := registry.db.tournamentOwners.find?_insertNew
        ⟨registry.lastTournamentId + 1, userId, registry.now⟩
        (registry.lastTournamentId + 1, userId)
      rw [TournamentOwner.key, if_pos rfl] at hfind
      exact ⟨_, Table.mem_of_find? _ hfind,
        congrArg Prod.fst (Table.key_of_find? _ hfind)⟩

/-- `update_tournament` writes over the stored row, or writes nothing. -/
theorem updateTournament_ok {platform : Platform} {loaded : Tournament}
    {payload : TournamentUpdate}
    (hok : updateTournament platform loaded payload registry =
      .ok (response, registry')) :
    response.status = 200 ∧
      requireOrderedWindow (mergedDate loaded.startDate payload.startDate)
        (mergedDate loaded.endDate payload.endDate) = .ok () ∧
      (registry' = registry ∨ ∃ stored,
        registry.db.tournaments.find? loaded.id = some stored ∧
          registry' = { registry with
            db := { registry.db with
              tournaments := registry.db.tournaments.overwrite
                (payload.update loaded stored) } }) := by
  rw [updateTournament] at hok
  simp only [bind_eq_ok] at hok
  obtain ⟨_, _, _, hwindow, hok⟩ := hok
  refine ⟨?_, hwindow, ?_⟩
  · split at hok
    · cases hok
      rfl
    · split at hok
      · cases hok
      · cases hok
        rfl
  · split at hok
    · cases hok
      exact Or.inl rfl
    · split at hok
      · cases hok
      · next stored hstored =>
          cases hok
          exact Or.inr ⟨stored, hstored, rfl⟩

theorem updateTournament_keeps {platform : Platform} {loaded : Tournament}
    {payload : TournamentUpdate} (hmanaged : Managed registry)
    (hok : updateTournament platform loaded payload registry =
      .ok (response, registry')) : Keeps registry registry' := by
  obtain ⟨_, _, rfl | ⟨stored, hstored, rfl⟩⟩ := updateTournament_ok hok
  · exact ⟨hmanaged, .of_eq rfl⟩
  · have hmem := Table.mem_of_find? _ hstored
    refine ⟨{ hmanaged with tournament_id := ?_, owned := ?_ }, .of_eq rfl⟩
    · intro t ht
      rcases (Table.mem_overwrite _).mp ht with rfl | ⟨hold, _⟩
      · exact hmanaged.tournament_id stored hmem
      · exact hmanaged.tournament_id t hold
    · intro t ht
      rcases (Table.mem_overwrite _).mp ht with rfl | ⟨hold, _⟩
      · exact hmanaged.owned stored hmem
      · exact hmanaged.owned t hold

/-- Deleting a tournament leaves the rows of the others, and the memberships
between them. -/
theorem deleteTournamentRow_keeps {tournament : Tournament}
    (hmanaged : Managed registry)
    (hok : deleteTournamentRow tournament registry =
      .ok (response, registry')) : Keeps registry registry' := by
  cases hok
  apply hmanaged.shrink
  · exact ⟨fun t ht => List.mem_of_mem_filter ht,
      fun entry hentry => List.mem_of_mem_filter hentry,
      fun team hteam => List.mem_of_mem_filter hteam,
      fun row hrow => List.mem_of_mem_filter hrow, rfl, rfl, rfl⟩
  · intro row hrow team hteam hid
    have hkept := (List.mem_filter.mp hrow).2
    simp only [Bool.and_eq_true, Bool.not_eq_true', List.contains_iff_mem,
      ← Bool.not_eq_true] at hkept
    refine List.mem_filter.mpr ⟨hteam, ?_⟩
    simp only [ne_eq, decide_not, Bool.not_eq_true', decide_eq_false_iff_not]
    intro hgone
    apply hkept.1
    rw [← hid]
    exact List.mem_map_of_mem (List.mem_filter.mpr ⟨hteam, by simp [hgone]⟩)
  · intro row hrow entry hentry hid
    have hkept := (List.mem_filter.mp hrow).2
    simp only [Bool.and_eq_true, Bool.not_eq_true', List.contains_iff_mem,
      ← Bool.not_eq_true] at hkept
    refine List.mem_filter.mpr ⟨hentry, ?_⟩
    simp only [ne_eq, decide_not, Bool.not_eq_true', decide_eq_false_iff_not]
    intro hgone
    apply hkept.2
    rw [← hid]
    exact List.mem_map_of_mem (List.mem_filter.mpr ⟨hentry, by simp [hgone]⟩)
  · intro t ht
    obtain ⟨hmem, hother⟩ := List.mem_filter.mp ht
    obtain ⟨owner, howner, hid⟩ := hmanaged.owned t hmem
    exact ⟨owner, List.mem_filter.mpr ⟨howner, by simpa [hid] using hother⟩,
      hid⟩

/-- `grant_tournament_owner` adds an owner row that was not there. -/
theorem grantTournamentOwner_ok {tournament : Tournament}
    {payload : TournamentOwnerCreate}
    (hok : grantTournamentOwner tournament payload registry =
      .ok (response, registry')) :
    response.status = 204 ∧
      registry.db.tournamentOwners.find? (tournament.id, payload.userId) =
        none ∧
      registry' = { registry with
        db := { registry.db with
          tournamentOwners := registry.db.tournamentOwners.insertNew
            ⟨tournament.id, payload.userId, registry.now⟩ } } := by
  unfold grantTournamentOwner at hok
  simp only at hok
  split at hok
  · cases hok
  · next hfree =>
      cases hok
      exact ⟨rfl, by simpa using hfree, rfl⟩

theorem grantTournamentOwner_keeps {tournament : Tournament}
    {payload : TournamentOwnerCreate} (hmanaged : Managed registry)
    (hok : grantTournamentOwner tournament payload registry =
      .ok (response, registry')) : Keeps registry registry' := by
  obtain ⟨_, _, rfl⟩ := grantTournamentOwner_ok hok
  refine ⟨{ hmanaged with owned := ?_ }, .of_eq rfl⟩
  intro t ht
  obtain ⟨owner, howner, hid⟩ := hmanaged.owned t ht
  exact ⟨owner, (Table.mem_insertNew _).mpr (Or.inl howner), hid⟩

/-- `revoke_tournament_owner` deletes one of several owner rows. -/
theorem revokeTournamentOwner_ok {tournament : Tournament} {userId : String}
    (hok : revokeTournamentOwner tournament userId registry =
      .ok (response, registry')) :
    response.status = 204 ∧ 1 < ownerCount registry.db tournament.id ∧
      registry' = { registry with
        db := { registry.db with
          tournamentOwners := registry.db.tournamentOwners.keepWhere
            (·.key ≠ (tournament.id, userId)) } } := by
  unfold revokeTournamentOwner at hok
  simp only at hok
  split at hok
  · cases hok
  · split at hok
    · next hseveral =>
        cases hok
        exact ⟨rfl, hseveral, rfl⟩
    · cases hok

/-- A tournament with several owner rows has one under another user id. -/
theorem exists_other_owner {db : Database} {tournamentId : Int}
    (hseveral : 1 < ownerCount db tournamentId) (userId : String) :
    ∃ owner ∈ db.tournamentOwners.rows, owner.tournamentId = tournamentId ∧
      owner.userId ≠ userId := by
  by_contra hnone
  simp only [not_exists, not_and, not_not] at hnone
  have hkeys : (db.tournamentOwners.rows.filter
      (·.tournamentId = tournamentId)).map TournamentOwner.key =
        List.replicate (ownerCount db tournamentId) (tournamentId, userId) := by
    rw [List.eq_replicate_iff]
    refine ⟨by rw [List.length_map, ownerCount, List.countP_eq_length_filter],
      fun k hk => ?_⟩
    obtain ⟨owner, howner, rfl⟩ := List.mem_map.mp hk
    obtain ⟨hmem, hid⟩ := List.mem_filter.mp howner
    simp only [decide_eq_true_eq] at hid
    rw [TournamentOwner.key, hid, hnone owner hmem hid]
  have hnodup : (List.replicate (ownerCount db tournamentId)
      (tournamentId, userId)).Nodup :=
    hkeys ▸ (List.filter_sublist.map _).nodup db.tournamentOwners.keys_nodup
  exact absurd (List.nodup_replicate.mp hnodup) (Nat.not_le.mpr hseveral)

theorem revokeTournamentOwner_keeps {tournament : Tournament}
    {userId : String} (hmanaged : Managed registry)
    (hok : revokeTournamentOwner tournament userId registry =
      .ok (response, registry')) : Keeps registry registry' := by
  obtain ⟨_, hseveral, rfl⟩ := revokeTournamentOwner_ok hok
  refine ⟨{ hmanaged with owned := ?_ }, .of_eq rfl⟩
  intro t ht
  by_cases hsame : t.id = tournament.id
  · obtain ⟨owner, howner, hid, hother⟩ := exists_other_owner hseveral userId
    refine ⟨owner, List.mem_filter.mpr ⟨howner, ?_⟩, hid.trans hsame.symm⟩
    simp [TournamentOwner.key, hother]
  · obtain ⟨owner, howner, hid⟩ := hmanaged.owned t ht
    refine ⟨owner, List.mem_filter.mpr ⟨howner, ?_⟩, hid⟩
    simp [TournamentOwner.key, hid, hsame]

theorem profileTaken_eq_true {db : Database} {tournamentId profileId : Int} :
    profileTaken db tournamentId profileId = true ↔
      ∃ entry ∈ db.tournamentPlayers.rows,
        entry.tournamentId = tournamentId ∧
          entry.profileId = some profileId := by
  simp [profileTaken]

theorem nameTaken_eq_true {db : Database} {tournamentId : Int}
    {name : String} :
    nameTaken db tournamentId name = true ↔
      ∃ entry ∈ db.tournamentPlayers.rows,
        entry.tournamentId = tournamentId ∧ entry.name = name := by
  simp [nameTaken]

/-- An entry that got into the table met none with its name or profile. -/
theorem insertRosterRow_ok {tournamentId : Int} {payload : RosterPlayerCreate}
    (hok : insertRosterRow registry tournamentId payload = .ok registry') :
    payload.profileId.any (profileTaken registry.db tournamentId) = false ∧
      nameTaken registry.db tournamentId payload.name = false ∧
      registry' = { registry with
        lastTournamentPlayerId := registry.lastTournamentPlayerId + 1
        db := { registry.db with
          tournamentPlayers := registry.db.tournamentPlayers.insertNew
            (rosterEntryOf payload (registry.lastTournamentPlayerId + 1)
              tournamentId) } } := by
  rw [insertRosterRow] at hok
  simp only at hok
  split at hok
  · cases hok
  · split at hok
    · cases hok
    · next hfree =>
        simp only [Bool.or_eq_true, not_or, Bool.not_eq_true] at hfree
        cases hok
        exact ⟨hfree.1.2, hfree.2, rfl⟩

/-- A row whose name is free in its tournament leaves the names unique. -/
theorem insertNew_names_unique {db : Database} {payload : RosterPlayerCreate}
    {id tournamentId : Int} (hunique : UniqueNames db.tournamentPlayers)
    (hname : nameTaken db tournamentId payload.name = false) :
    UniqueNames (db.tournamentPlayers.insertNew
      (rosterEntryOf payload id tournamentId)) := by
  have hclash : ∀ entry ∈ db.tournamentPlayers.rows,
      entry.tournamentId = tournamentId → entry.name ≠ payload.name :=
    fun entry hentry hid hsame => Bool.eq_false_iff.mp hname
      (nameTaken_eq_true.mpr ⟨entry, hentry, hid, hsame⟩)
  refine db.tournamentPlayers.forall_pairs_insertNew hunique
    (fun other hother => ⟨fun htournament heq => ?_, fun htournament heq => ?_⟩)
    fun _ _ => rfl
  · exact absurd heq (hclash other hother htournament)
  · exact absurd heq.symm (hclash other hother htournament.symm)

theorem insertNew_profiles_unique {db : Database}
    {payload : RosterPlayerCreate} {id tournamentId : Int}
    (hunique : UniqueProfiles db.tournamentPlayers)
    (hprofile : payload.profileId.any (profileTaken db tournamentId) = false) :
    UniqueProfiles (db.tournamentPlayers.insertNew
      (rosterEntryOf payload id tournamentId)) := by
  have hclash : ∀ entry ∈ db.tournamentPlayers.rows,
      entry.tournamentId = tournamentId → entry.profileId ≠ none →
        entry.profileId ≠ payload.profileId := by
    intro entry hentry hid hsome hsame
    obtain ⟨profileId, hprofileId⟩ := Option.ne_none_iff_exists'.mp hsome
    rw [← hsame, hprofileId] at hprofile
    exact Bool.eq_false_iff.mp hprofile
      (profileTaken_eq_true.mpr ⟨entry, hentry, hid, hprofileId⟩)
  refine db.tournamentPlayers.forall_pairs_insertNew hunique
    (fun other hother => ⟨fun htournament heq hlinked => ?_,
      fun htournament heq hlinked => ?_⟩) fun _ _ _ => rfl
  · exact absurd heq (hclash other hother htournament hlinked)
  · exact absurd heq.symm
      (hclash other hother htournament.symm (heq ▸ hlinked))

theorem insertRosterRow_keeps {tournamentId : Int}
    {payload : RosterPlayerCreate} (hmanaged : Managed registry)
    (hok : insertRosterRow registry tournamentId payload = .ok registry') :
    Keeps registry registry' := by
  obtain ⟨hprofile, hname, rfl⟩ := insertRosterRow_ok hok
  have hmem : ∀ entry ∈ (registry.db.tournamentPlayers.insertNew
      (rosterEntryOf payload (registry.lastTournamentPlayerId + 1)
        tournamentId)).rows,
      entry ∈ registry.db.tournamentPlayers.rows ∨
        entry = rosterEntryOf payload (registry.lastTournamentPlayerId + 1)
          tournamentId :=
    fun entry hentry => ((Table.mem_insertNew _).mp hentry).imp_right And.left
  have hnew : ∀ entry ∈ registry.db.tournamentPlayers.rows,
      entry.id ≠ registry.lastTournamentPlayerId + 1 := by
    intro entry hentry
    have hle := hmanaged.entry_id entry hentry
    omega
  constructor
  · refine { hmanaged with
      entry_id := ?_, member_entry := ?_, member_tournament := ?_,
      name_unique := ?_, profile_unique := ?_ }
    · intro entry hentry
      rcases hmem entry hentry with hold | rfl
      · exact le_trans (hmanaged.entry_id entry hold) (Int.le_add_one le_rfl)
      · exact le_rfl
    · intro row hrow
      obtain ⟨entry, hentry, hid⟩ := hmanaged.member_entry row hrow
      exact ⟨entry, (Table.mem_insertNew _).mpr (Or.inl hentry), hid⟩
    · intro row hrow team hteam entry hentry hteamId hentryId
      rcases hmem entry hentry with hold | rfl
      · exact hmanaged.member_tournament row hrow team hteam entry hold hteamId
          hentryId
      · obtain ⟨old, hold, hid⟩ := hmanaged.member_entry row hrow
        exact absurd (hid.trans hentryId) (hnew old hold)
    · exact insertNew_names_unique hmanaged.name_unique hname
    · exact insertNew_profiles_unique hmanaged.profile_unique hprofile
  · intro entry hentry entry' hentry' hid _
    rcases hmem entry' hentry' with hold | rfl
    · rw [registry.db.tournamentPlayers.eq_of_key_eq hold hentry hid]
    · exact absurd hid.symm (hnew entry hentry)

/-- `add_roster_player` inserts where its three checks pass. -/
theorem addRosterPlayer_ok {tournament : Tournament}
    {payload : RosterPlayerCreate}
    (hok : addRosterPlayer tournament payload registry =
      .ok (response, registry')) :
    response.status = 204 ∧
      insertRosterRow registry tournament.id payload = .ok registry' := by
  rw [addRosterPlayer] at hok
  simp only [bind_eq_ok] at hok
  obtain ⟨_, _, _, _, _, _, hok⟩ := hok
  split at hok
  · cases hok
  · next hinsert =>
      cases hok
      exact ⟨rfl, hinsert⟩

theorem rosterRowById_eq_some {db : Database} {tournamentId id : Int}
    {entry : TournamentPlayer}
    (hfind : rosterRowById db tournamentId id = some entry) :
    entry ∈ db.tournamentPlayers.rows ∧ entry.id = id ∧
      entry.tournamentId = tournamentId := by
  obtain ⟨hfound, htournament⟩ := Option.filter_eq_some_iff.mp hfind
  exact ⟨Table.mem_of_find? _ hfound, Table.key_of_find? _ hfound,
    by simpa using htournament⟩

theorem removeRosterPlayer_ok {tournament : Tournament} {id : Int}
    (hok : removeRosterPlayer tournament id registry =
      .ok (response, registry')) :
    response.status = 204 ∧
      registry' = { registry with db := cascadeRosterRow registry.db id } := by
  rw [removeRosterPlayer] at hok
  split at hok
  · cases hok
  · next entry hfind =>
      cases hok
      rw [(rosterRowById_eq_some hfind).2.1]
      exact ⟨rfl, rfl⟩

theorem removeRosterPlayer_keeps {tournament : Tournament} {id : Int}
    (hmanaged : Managed registry)
    (hok : removeRosterPlayer tournament id registry =
      .ok (response, registry')) : Keeps registry registry' := by
  obtain ⟨_, rfl⟩ := removeRosterPlayer_ok hok
  apply hmanaged.shrink
  · exact ⟨fun _ ht => ht, fun _ hentry => List.mem_of_mem_filter hentry,
      fun _ hteam => hteam, fun _ hrow => List.mem_of_mem_filter hrow,
      rfl, rfl, rfl⟩
  · exact fun _ _ _ hteam _ => hteam
  · intro row hrow entry hentry hid
    refine List.mem_filter.mpr ⟨hentry, ?_⟩
    rw [hid]
    exact (List.mem_filter.mp hrow).2
  · exact hmanaged.owned

theorem linkedProfile_ok {db : Database} {tournamentId : Int}
    {entry : TournamentPlayer} {change result : Option Int}
    (hok : linkedProfile db tournamentId entry change = .ok result) :
    result = entry.profileId ∨ entry.profileId = none ∧
      ∃ profileId, result = some profileId ∧
        profileTaken db tournamentId profileId = false := by
  unfold linkedProfile at hok
  split at hok
  · cases hok
    exact Or.inl rfl
  · next profileId =>
      split at hok
      · cases hok
      · next hunlinked =>
          split at hok
          · cases hok
          · split at hok
            · cases hok
            · next hfree =>
                cases hok
                exact Or.inr ⟨by simpa using hunlinked, profileId, rfl,
                  by simpa using hfree⟩

theorem updateRosterPlayer_ok {tournament : Tournament} {id : Int}
    {payload : RosterPlayerUpdate}
    (hok : updateRosterPlayer tournament id payload registry =
      .ok (response, registry')) :
    response.status = 204 ∧ ∃ entry profileId,
      rosterRowById registry.db tournament.id id = some entry ∧
      linkedProfile registry.db tournament.id entry payload.profileId =
        .ok profileId ∧
      registry' = { registry with
        db := { registry.db with
          tournamentPlayers := registry.db.tournamentPlayers.overwrite
            (payload.edited entry profileId) } } := by
  rw [updateRosterPlayer] at hok
  split at hok
  · cases hok
  · next entry hfind =>
      obtain ⟨profileId, hlink, hok⟩ := bind_eq_ok.mp hok
      cases hok
      exact ⟨rfl, entry, profileId, hfind, hlink, rfl⟩

/-- A link to a free profile keeps the profiles of a roster apart. -/
theorem linked_profiles_unique {tournamentId : Int} {entry : TournamentPlayer}
    {change profileId : Option Int} {entries : Table TournamentPlayer.id}
    (hmanaged : Managed registry)
    (hentry : entry ∈ registry.db.tournamentPlayers.rows)
    (htournament : entry.tournamentId = tournamentId)
    (hlink : linkedProfile registry.db tournamentId entry change =
      .ok profileId)
    (hmem : ∀ row ∈ entries.rows,
      ∃ old ∈ registry.db.tournamentPlayers.rows, old.id = row.id ∧
        old.tournamentId = row.tournamentId ∧ old.name = row.name ∧
          (row.profileId = old.profileId ∨
            old = entry ∧ row.profileId = profileId)) :
    UniqueProfiles entries := by
  intro left hleft right hright htournaments hprofiles hlinked
  obtain ⟨l, hl, hlId, hlTournament, _, hlProfile⟩ := hmem left hleft
  obtain ⟨r, hr, hrId, hrTournament, _, hrProfile⟩ := hmem right hright
  have hsame := hlTournament.trans (htournaments.trans hrTournament.symm)
  rw [← hlId, ← hrId]
  rcases linkedProfile_ok hlink with hkept | ⟨_, linked, hnew, hfree⟩
  · have hold : ∀ old row : TournamentPlayer,
        row.profileId = old.profileId ∨
            old = entry ∧ row.profileId = profileId →
          row.profileId = old.profileId := by
      rintro old row (hrow | ⟨rfl, hrow⟩)
      · exact hrow
      · exact hrow.trans hkept
    rw [hold l left hlProfile] at hprofiles hlinked
    rw [hold r right hrProfile] at hprofiles
    exact hmanaged.profile_unique l hl r hr hsame hprofiles hlinked
  · -- no other entry of the roster holds the profile that was linked
    have hclash : ∀ old ∈ registry.db.tournamentPlayers.rows,
        old.tournamentId = tournamentId → old.profileId ≠ some linked :=
      fun old hold hid hprofile => Bool.eq_false_iff.mp hfree
        (profileTaken_eq_true.mpr ⟨old, hold, hid, hprofile⟩)
    rcases hlProfile with hlOld | ⟨rfl, hlNew⟩ <;>
      rcases hrProfile with hrOld | ⟨rfl, hrNew⟩
    · rw [hlOld] at hprofiles hlinked
      rw [hrOld] at hprofiles
      exact hmanaged.profile_unique l hl r hr hsame hprofiles hlinked
    · exact absurd (hlOld.symm.trans (hprofiles.trans (hrNew.trans hnew)))
        (hclash l hl (hsame.trans htournament))
    · exact absurd (hrOld.symm.trans (hprofiles.symm.trans (hlNew.trans hnew)))
        (hclash r hr (hsame.symm.trans htournament))
    · rfl

theorem updateRosterPlayer_keeps {tournament : Tournament} {id : Int}
    {payload : RosterPlayerUpdate} (hmanaged : Managed registry)
    (hok : updateRosterPlayer tournament id payload registry =
      .ok (response, registry')) : Keeps registry registry' := by
  obtain ⟨_, entry, profileId, hfind, hlink, rfl⟩ := updateRosterPlayer_ok hok
  obtain ⟨hentry, _, htournament⟩ := rosterRowById_eq_some hfind
  -- the edited row stands where `entry` stood
  have hmem : ∀ row ∈ (registry.db.tournamentPlayers.overwrite
      (payload.edited entry profileId)).rows,
      ∃ old ∈ registry.db.tournamentPlayers.rows, old.id = row.id ∧
        old.tournamentId = row.tournamentId ∧ old.name = row.name ∧
          (row.profileId = old.profileId ∨
            old = entry ∧ row.profileId = profileId) := by
    intro row hrow
    rcases (Table.mem_overwrite _).mp hrow with rfl | ⟨hold, _⟩
    · exact ⟨entry, hentry, rfl, rfl, rfl, Or.inr ⟨rfl, rfl⟩⟩
    · exact ⟨row, hold, rfl, rfl, rfl, Or.inl rfl⟩
  have hkept : ∀ old ∈ registry.db.tournamentPlayers.rows,
      ∃ row ∈ (registry.db.tournamentPlayers.overwrite
        (payload.edited entry profileId)).rows, row.id = old.id := by
    intro old hold
    by_cases hid : old.id = entry.id
    · exact ⟨_, (Table.mem_overwrite _).mpr (Or.inl rfl), hid.symm⟩
    · exact ⟨old, (Table.mem_overwrite _).mpr (Or.inr ⟨hold, hid⟩), rfl⟩
  constructor
  · refine { hmanaged with
      entry_id := ?_, member_entry := ?_, member_tournament := ?_,
      name_unique := ?_, profile_unique := ?_ }
    · intro row hrow
      obtain ⟨old, hold, hid, _⟩ := hmem row hrow
      exact hid ▸ hmanaged.entry_id old hold
    · intro member hmember
      obtain ⟨old, hold, hid⟩ := hmanaged.member_entry member hmember
      obtain ⟨row, hrow, hrowId⟩ := hkept old hold
      exact ⟨row, hrow, hrowId.trans hid⟩
    · intro member hmember team hteam row hrow hteamId hrowId
      obtain ⟨old, hold, hid, holdTournament, _⟩ := hmem row hrow
      rw [← holdTournament]
      exact hmanaged.member_tournament member hmember team hteam old hold
        hteamId (hrowId.trans hid.symm)
    · intro left hleft right hright htournaments hnames
      obtain ⟨l, hl, hlId, hlTournament, hlName, _⟩ := hmem left hleft
      obtain ⟨r, hr, hrId, hrTournament, hrName, _⟩ := hmem right hright
      rw [← hlId, ← hrId]
      exact hmanaged.name_unique l hl r hr
        (hlTournament.trans (htournaments.trans hrTournament.symm))
        (hlName.trans (hnames.trans hrName.symm))
    · exact linked_profiles_unique hmanaged hentry htournament hlink hmem
  · intro old hold row hrow hid hlinked
    obtain ⟨old', hold', hid', _, _, hprofile⟩ := hmem row hrow
    obtain rfl := registry.db.tournamentPlayers.eq_of_key_eq hold' hold
      (hid'.trans hid)
    rcases hprofile with hsame | ⟨rfl, hnew⟩
    · exact hsame
    · rcases linkedProfile_ok hlink with hsame | ⟨hunlinked, _⟩
      · exact hnew.trans hsame
      · simp [hunlinked] at hlinked

end Routes

end LiveStandings
