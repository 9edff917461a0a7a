/-
The team routes keep the management invariant.
-/
import LiveStandings.ManagementInvariants

namespace LiveStandings

open KeyedTable PyJson Fallible

variable {registry registry' : Registry} {response : Response}

theorem ownedTeam_ok {db : Database} {tournament : Tournament} {teamId : Int}
    {team : Team} (hok : ownedTeam db tournament teamId = .ok team) :
    team ∈ db.teams.rows ∧ team.id = teamId ∧
      team.tournamentId = tournament.id := by
  unfold ownedTeam at hok
  split at hok
  · next found hfound =>
      cases hok
      obtain ⟨hfind, htournament⟩ := Option.filter_eq_some_iff.mp hfound
      exact ⟨Table.mem_of_find? _ hfind, Table.key_of_find? _ hfind,
        by simpa using htournament⟩
  · cases hok

theorem createTeam_keeps {tournament : Tournament} {payload : TeamCreate}
    (hmanaged : Managed registry)
    (hok : createTeam tournament payload registry =
      .ok (response, registry')) : Keeps registry registry' := by
  cases hok
  refine ⟨{ hmanaged with
    team_id := ?_, member_team := ?_, member_tournament := ?_ }, .of_eq rfl⟩
  · intro team hteam
    rcases (Table.mem_insertNew _).mp hteam with hold | ⟨rfl, _⟩
    · exact le_trans (hmanaged.team_id team hold) (Int.le_add_one le_rfl)
    · exact le_rfl
  · intro row hrow
    obtain ⟨team, hteam, hid⟩ := hmanaged.member_team row hrow
    exact ⟨team, (Table.mem_insertNew _).mpr (Or.inl hteam), hid⟩
  · intro row hrow team hteam entry hentry hteamId hentryId
    rcases (Table.mem_insertNew _).mp hteam with hold | ⟨rfl, _⟩
    · exact hmanaged.member_tournament row hrow team hold entry hentry hteamId
        hentryId
    · -- nobody is a member of a team that was not there
      obtain ⟨old, hold, hid⟩ := hmanaged.member_team row hrow
      have hle := hmanaged.team_id old hold
      have heq : old.id = registry.lastTeamId + 1 := hid.trans hteamId
      omega

theorem updateTeam_keeps {team : Team} {payload : TeamUpdate}
    (hmanaged : Managed registry) (hteam : team ∈ registry.db.teams.rows)
    (hok : updateTeam team payload registry = .ok (response, registry')) :
    Keeps registry registry' := by
  cases hok
  have hmem : ∀ row ∈ (registry.db.teams.overwrite
      { team with
        name := payload.name.getD team.name
        initials := payload.initials.getD team.initials }).rows,
      ∃ old ∈ registry.db.teams.rows, old.id = row.id ∧
        old.tournamentId = row.tournamentId := by
    intro row hrow
    rcases (Table.mem_overwrite _).mp hrow with rfl | ⟨hold, _⟩
    · exact ⟨team, hteam, rfl, rfl⟩
    · exact ⟨row, hold, rfl, rfl⟩
  refine ⟨{ hmanaged with
    team_id := ?_, member_team := ?_, member_tournament := ?_ }, .of_eq rfl⟩
  · intro row hrow
    obtain ⟨old, hold, hid, _⟩ := hmem row hrow
    exact hid ▸ hmanaged.team_id old hold
  · intro member hmember
    obtain ⟨old, hold, hid⟩ := hmanaged.member_team member hmember
    by_cases hsame : old.id = team.id
    · exact ⟨_, (Table.mem_overwrite _).mpr (Or.inl rfl), hsame.symm.trans hid⟩
    · exact ⟨old, (Table.mem_overwrite _).mpr (Or.inr ⟨hold, hsame⟩), hid⟩
  · intro member hmember row hrow entry hentry hteamId hentryId
    obtain ⟨old, hold, hid, htournament⟩ := hmem row hrow
    rw [← htournament]
    exact hmanaged.member_tournament member hmember old hold entry hentry
      (hteamId.trans hid.symm) hentryId

theorem deleteTeam_keeps {team : Team} (hmanaged : Managed registry)
    (hok : deleteTeam team registry = .ok (response, registry')) :
    Keeps registry registry' := by
  cases hok
  apply hmanaged.shrink
  · exact ⟨fun _ ht => ht, fun _ hentry => hentry,
      fun _ hmem => List.mem_of_mem_filter hmem,
      fun _ hrow => List.mem_of_mem_filter hrow, rfl, rfl, rfl⟩
  · intro row hrow other hother hid
    refine List.mem_filter.mpr ⟨hother, ?_⟩
    rw [hid]
    exact (List.mem_filter.mp hrow).2
  · exact fun _ _ _ hentry _ => hentry
  · exact hmanaged.owned

theorem resolveRosterRow_ok {db : Database} {tournamentId id : Int}
    {entry : TournamentPlayer}
    (hok : resolveRosterRow db tournamentId id = .ok entry) :
    entry ∈ db.tournamentPlayers.rows ∧ entry.id = id ∧
      entry.tournamentId = tournamentId := by
  unfold resolveRosterRow at hok
  split at hok
  · next hfind =>
      cases hok
      exact rosterRowById_eq_some hfind
  · cases hok

/-- `add_team_member` adds an entry of the team's tournament that is not on
the team. -/
theorem addTeamMember_ok {team : Team} {payload : TeamMemberRef}
    (hok : addTeamMember team payload registry = .ok (response, registry')) :
    response.status = 204 ∧ ∃ entry,
      resolveRosterRow registry.db team.tournamentId
          payload.tournamentPlayerId = .ok entry ∧
        registry.db.teamMembers.find? (team.id, entry.id) = none ∧
        registry' = { registry with
          db := { registry.db with
            teamMembers := registry.db.teamMembers.insertNew
              ⟨team.id, entry.id, false⟩ } } := by
  unfold addTeamMember at hok
  obtain ⟨entry, hresolve, hok⟩ := bind_eq_ok.mp hok
  split at hok
  · cases hok
  · next hfree =>
      cases hok
      exact ⟨rfl, entry, hresolve, by simpa using hfree, rfl⟩

theorem addTeamMember_keeps {team : Team} {payload : TeamMemberRef}
    (hmanaged : Managed registry) (hteam : team ∈ registry.db.teams.rows)
    (hok : addTeamMember team payload registry = .ok (response, registry')) :
    Keeps registry registry' := by
  obtain ⟨_, entry, hresolve, _, rfl⟩ := addTeamMember_ok hok
  obtain ⟨hentry, _, htournament⟩ := resolveRosterRow_ok hresolve
  refine ⟨{ hmanaged with
    member_team := ?_, member_entry := ?_, member_tournament := ?_,
    captain_unique := ?_ }, .of_eq rfl⟩
  · intro row hrow
    rcases (Table.mem_insertNew _).mp hrow with hold | ⟨rfl, _⟩
    · exact hmanaged.member_team row hold
    · exact ⟨team, hteam, rfl⟩
  · intro row hrow
    rcases (Table.mem_insertNew _).mp hrow with hold | ⟨rfl, _⟩
    · exact hmanaged.member_entry row hold
    · exact ⟨entry, hentry, rfl⟩
  · intro row hrow other hother entry' hentry' hteamId hentryId
    rcases (Table.mem_insertNew _).mp hrow with hold | ⟨rfl, _⟩
    · exact hmanaged.member_tournament row hold other hother entry' hentry'
        hteamId hentryId
    · rw [← registry.db.teams.eq_of_key_eq hteam hother hteamId,
        ← registry.db.tournamentPlayers.eq_of_key_eq hentry hentry' hentryId]
      exact htournament
  · intro left hleft right hright hsame hl hr
    rcases (Table.mem_insertNew _).mp hleft with hleft | ⟨rfl, _⟩
    · rcases (Table.mem_insertNew _).mp hright with hright | ⟨rfl, _⟩
      · exact hmanaged.captain_unique left hleft right hright hsame hl hr
      · cases hr
    · cases hl

theorem teamMember_ok {db : Database} {team : Team} {id : Int}
    {member : TeamMember} (hok : teamMember db team id = .ok member) :
    member ∈ db.teamMembers.rows ∧ member.teamId = team.id ∧
      member.tournamentPlayerId = id := by
  unfold teamMember at hok
  split at hok
  · next found hfind =>
      cases hok
      have hkey := Table.key_of_find? _ hfind
      exact ⟨Table.mem_of_find? _ hfind, congrArg Prod.fst hkey,
        congrArg Prod.snd hkey⟩
  · cases hok

theorem removeTeamMember_keeps {team : Team} {id : Int}
    (hmanaged : Managed registry)
    (hok : removeTeamMember team id registry = .ok (response, registry')) :
    Keeps registry registry' := by
  unfold removeTeamMember at hok
  obtain ⟨member, _, hok⟩ := bind_eq_ok.mp hok
  cases hok
  apply hmanaged.shrink
  · exact ⟨fun _ ht => ht, fun _ hentry => hentry, fun _ hmem => hmem,
      fun _ hrow => List.mem_of_mem_filter hrow, rfl, rfl, rfl⟩
  · exact fun _ _ _ hother _ => hother
  · exact fun _ _ _ hentry _ => hentry
  · exact hmanaged.owned

/-- Memberships were only removed, or had their captain flag changed. -/
def KeepsMembers (before after : Database) : Prop :=
  ∀ row ∈ after.teamMembers.rows,
    ∃ old ∈ before.teamMembers.rows, old.key = row.key

theorem KeepsMembers.of_subset {before after : Database}
    (hmembers : ∀ row ∈ after.teamMembers.rows,
      row ∈ before.teamMembers.rows) : KeepsMembers before after :=
  fun row hrow => ⟨row, hmembers row hrow, rfl⟩

theorem KeepsMembers.refl (db : Database) : KeepsMembers db db :=
  .of_subset fun _ hrow => hrow

/-- Memberships may change their captain flag, as long as a team keeps one
captain. -/
theorem Managed.recaptain (hmanaged : Managed registry)
    {members : Table TeamMember.key}
    (hkeys : KeepsMembers registry.db
      { registry.db with teamMembers := members })
    (hcaptain : ∀ left ∈ members.rows, ∀ right ∈ members.rows,
      left.teamId = right.teamId → left.isCaptain = true →
        right.isCaptain = true → left = right) :
    Keeps registry { registry with
      db := { registry.db with teamMembers := members } } := by
  refine ⟨{ hmanaged with
    member_team := ?_, member_entry := ?_, member_tournament := ?_,
    captain_unique := hcaptain }, .of_eq rfl⟩
  · intro row hrow
    obtain ⟨old, hold, hkey⟩ := hkeys row hrow
    obtain ⟨team, hteam, hid⟩ := hmanaged.member_team old hold
    exact ⟨team, hteam, hid.trans (congrArg Prod.fst hkey)⟩
  · intro row hrow
    obtain ⟨old, hold, hkey⟩ := hkeys row hrow
    obtain ⟨entry, hentry, hid⟩ := hmanaged.member_entry old hold
    exact ⟨entry, hentry, hid.trans (congrArg Prod.snd hkey)⟩
  · intro row hrow team hteam entry hentry hteamId hentryId
    obtain ⟨old, hold, hkey⟩ := hkeys row hrow
    exact hmanaged.member_tournament old hold team hteam entry hentry
      ((congrArg Prod.fst hkey).trans hteamId)
      ((congrArg Prod.snd hkey).trans hentryId)

/-- Clearing a team's captain leaves the memberships, and the captains of the
other teams. -/
theorem mem_withoutCaptain {db : Database} {teamId : Int} {row : TeamMember}
    (hrow : row ∈ (withoutCaptain db teamId).rows) :
    ∃ old ∈ db.teamMembers.rows, old.key = row.key ∧
      (row.isCaptain = true → row = old ∧ row.teamId ≠ teamId) := by
  obtain ⟨old, hold, rfl⟩ := List.mem_map.mp hrow
  refine ⟨old, hold, ?_, ?_⟩
  · split <;> rfl
  · split
    · intro hcaptain
      cases hcaptain
    · next hother =>
        intro hcaptain
        refine ⟨rfl, fun hsame => hother ?_⟩
        simp [hsame, hcaptain]

/-- What `set_team_captain` leaves: the state, or one with the requested
member as captain. -/
theorem setTeamCaptain_ok {team : Team} {payload : TeamMemberRef}
    (hok : setTeamCaptain team payload registry = .ok (response, registry')) :
    response.status = 204 ∧ ∃ member,
      teamMember registry.db team payload.tournamentPlayerId = .ok member ∧
        ((member.isCaptain = true ∧ registry' = registry) ∨
          registry' = { registry with
            db := { registry.db with
              teamMembers := (withoutCaptain registry.db team.id).overwrite
                { member with isCaptain := true } } }) := by
  unfold setTeamCaptain at hok
  obtain ⟨member, hmember, hok⟩ := bind_eq_ok.mp hok
  split at hok
  · next hcaptain =>
      cases hok
      exact ⟨rfl, member, hmember, Or.inl ⟨hcaptain, rfl⟩⟩
  · obtain ⟨_, _, hok⟩ := bind_eq_ok.mp hok
    cases hok
    exact ⟨rfl, member, hmember, Or.inr rfl⟩

theorem setTeamCaptain_keepsMembers {team : Team} {payload : TeamMemberRef}
    (hok : setTeamCaptain team payload registry = .ok (response, registry')) :
    KeepsMembers registry.db registry'.db := by
  obtain ⟨_, member, hmember, ⟨_, rfl⟩ | rfl⟩ := setTeamCaptain_ok hok
  · exact .refl _
  · intro row hrow
    rcases (Table.mem_overwrite _).mp hrow with rfl | ⟨hother, _⟩
    · exact ⟨member, (teamMember_ok hmember).1, rfl⟩
    · obtain ⟨old, hold, hkey, _⟩ := mem_withoutCaptain hother
      exact ⟨old, hold, hkey⟩

theorem setTeamCaptain_keeps {team : Team} {payload : TeamMemberRef}
    (hmanaged : Managed registry)
    (hok : setTeamCaptain team payload registry = .ok (response, registry')) :
    Keeps registry registry' := by
  have hmembers := setTeamCaptain_keepsMembers hok
  obtain ⟨_, member, hmember, ⟨_, rfl⟩ | rfl⟩ := setTeamCaptain_ok hok
  · exact ⟨hmanaged, .of_eq rfl⟩
  · obtain ⟨hstored, hteam, _⟩ := teamMember_ok hmember
    apply hmanaged.recaptain
    · exact hmembers
    · intro left hleft right hright hsame hl hr
      rcases (Table.mem_overwrite _).mp hleft with rfl | ⟨hleft, _⟩ <;>
        rcases (Table.mem_overwrite _).mp hright with rfl | ⟨hright, _⟩
      · rfl
      · obtain ⟨_, _, _, hcaptain⟩ := mem_withoutCaptain hright
        exact absurd (hsame.symm.trans hteam) (hcaptain hr).2
      · obtain ⟨_, _, _, hcaptain⟩ := mem_withoutCaptain hleft
        exact absurd (hsame.trans hteam) (hcaptain hl).2
      · obtain ⟨l, hlmem, _, hlsame⟩ := mem_withoutCaptain hleft
        obtain ⟨r, hrmem, _, hrsame⟩ := mem_withoutCaptain hright
        obtain ⟨rfl, _⟩ := hlsame hl
        obtain ⟨rfl, _⟩ := hrsame hr
        exact hmanaged.captain_unique left hlmem right hrmem hsame hl hr

/-- A member is the captain of a team, and nobody else is. -/
def IsCaptain (db : Database) (teamId tournamentPlayerId : Int) : Prop :=
  ∃ row ∈ db.teamMembers.rows, row.key = (teamId, tournamentPlayerId) ∧
    row.isCaptain = true ∧ ∀ other ∈ db.teamMembers.rows,
      other.teamId = teamId → other.isCaptain = true → other = row

theorem setTeamCaptain_captain {team : Team} {payload : TeamMemberRef}
    (hmanaged : Managed registry)
    (hok : setTeamCaptain team payload registry = .ok (response, registry')) :
    IsCaptain registry'.db team.id payload.tournamentPlayerId := by
  have hkeeps := setTeamCaptain_keeps hmanaged hok
  obtain ⟨_, member, hmember, hresult⟩ := setTeamCaptain_ok hok
  obtain ⟨hstored, hteam, hid⟩ := teamMember_ok hmember
  have hcaptain : ∃ row ∈ registry'.db.teamMembers.rows,
      row.key = (team.id, payload.tournamentPlayerId) ∧
        row.isCaptain = true := by
    rcases hresult with ⟨hflag, rfl⟩ | rfl
    · exact ⟨member, hstored, by rw [TeamMember.key, hteam, hid], hflag⟩
    · exact ⟨{ member with isCaptain := true },
        (Table.mem_overwrite _).mpr (Or.inl rfl),
        by rw [TeamMember.key, hteam, hid], rfl⟩
  obtain ⟨row, hrow, hkey, hflag⟩ := hcaptain
  exact ⟨row, hrow, hkey, hflag, fun other hother hsame hotherFlag =>
    hkeeps.managed.captain_unique other hother row hrow
      (hsame.trans (congrArg Prod.fst hkey).symm) hotherFlag hflag⟩

/-- What `clear_team_captain` leaves. -/
theorem clearTeamCaptain_ok {team : Team}
    (hok : clearTeamCaptain team registry = .ok (response, registry')) :
    response.status = 204 ∧ (registry' = registry ∨
      registry' = { registry with
        db := { registry.db with
          teamMembers := withoutCaptain registry.db team.id } }) := by
  unfold clearTeamCaptain at hok
  obtain ⟨previous, _, hok⟩ := bind_eq_ok.mp hok
  split at hok
  · cases hok
    exact ⟨rfl, Or.inl rfl⟩
  · cases hok
    exact ⟨rfl, Or.inr rfl⟩

theorem clearTeamCaptain_keepsMembers {team : Team}
    (hok : clearTeamCaptain team registry = .ok (response, registry')) :
    KeepsMembers registry.db registry'.db := by
  obtain ⟨_, rfl | rfl⟩ := clearTeamCaptain_ok hok
  · exact .refl _
  · intro row hrow
    obtain ⟨old, hold, hkey, _⟩ := mem_withoutCaptain hrow
    exact ⟨old, hold, hkey⟩

theorem clearTeamCaptain_keeps {team : Team} (hmanaged : Managed registry)
    (hok : clearTeamCaptain team registry = .ok (response, registry')) :
    Keeps registry registry' := by
  have hmembers := clearTeamCaptain_keepsMembers hok
  obtain ⟨_, rfl | rfl⟩ := clearTeamCaptain_ok hok
  · exact ⟨hmanaged, .of_eq rfl⟩
  · apply hmanaged.recaptain
    · exact hmembers
    · intro left hleft right hright hsame hl hr
      obtain ⟨l, hlmem, _, hlsame⟩ := mem_withoutCaptain hleft
      obtain ⟨r, hrmem, _, hrsame⟩ := mem_withoutCaptain hright
      obtain ⟨rfl, _⟩ := hlsame hl
      obtain ⟨rfl, _⟩ := hrsame hr
      exact hmanaged.captain_unique left hlmem right hrmem hsame hl hr

end LiveStandings
