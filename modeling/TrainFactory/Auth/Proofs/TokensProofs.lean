import TrainFactory.Auth.Sessions
import TrainFactory.Lib.Result
import TrainFactory.Lib.Run
import Mathlib.Tactic.SplitIfs

/-!
# Tokens do not outlive a revocation

The version that an issued token carries is the version of its user at a moment when the session that
issues it has checked the password and no revocation has been committed since. A session keeps its
row locked from the check to the read of the version, except over the commit of a new hash or of a
new account: there the condition `Quiet` is needed.
-/

namespace Auth

open Lib

variable {host : Host}

/-- The session has checked the password of the user, or created the account, and no revocation of
the user has been committed since. -/
def CheckedSince (history : List Event) (sid : SessionId) (userId : String) : Prop :=
  ∃ before after, history = before ++ .checked sid userId :: after ∧ .revoked userId ∉ after

/-- The session is between the commit of a new hash or account and the read of the version. -/
def Session.awaitsLoad (userId : String) : Session → Prop
  | .loading issues u => issues = true ∧ u = userId
  | _ => False

/-- The step does not commit a revocation of a user of whom another session has yet to load the
version that it puts into a token. -/
def Quiet (s : System) : Action → Prop
  | .advance sid _ => ∀ kind row row', s.sessions sid = some (.writing kind row row') →
      revokes kind row row' = true →
      ∀ sid' session, s.sessions sid' = some session → ¬ session.awaitsLoad row.userId
  | _ => True

def SessionInv (history : List Event) (s : System) (sid : SessionId) : Session → Prop
  | .writing kind row row' =>
    s.locks row.userId = some sid ∧ s.users.lookup row.userId = some row ∧
      row'.userId = row.userId ∧
      (kind = .rehash → CheckedSince history sid row.userId ∧ row'.tokenVersion = row.tokenVersion) ∧
      row.tokenVersion ≤ row'.tokenVersion ∧
      (revokes kind row row' = true → row.tokenVersion < row'.tokenVersion)
  | .authenticated row =>
    s.locks row.userId = some sid ∧ s.users.lookup row.userId = some row ∧
      CheckedSince history sid row.userId
  | .loading true userId => CheckedSince history sid userId
  | _ => True

/-- What holds of a token that a session has issued: it is the token of a row with at most the version
of the user, and if it has that version, there was no revocation since the check. -/
def IssuedInv (host : Host) (history : List Event) (s : System) (sid : SessionId)
    (token : String) : Prop :=
  ∃ now row, token = host.createAccessToken now row ∧
    ∃ current, s.users.lookup row.userId = some current ∧ row.tokenVersion ≤ current.tokenVersion ∧
      (row.tokenVersion = current.tokenVersion → CheckedSince history sid row.userId)

/-- The invariant. -/
structure Inv (host : Host) (history : List Event) (s : System) : Prop where
  session : ∀ sid session, s.sessions sid = some session → SessionInv history s sid session
  issued : ∀ sid token, .issued sid token ∈ history → IssuedInv host history s sid token

/-! ## Histories -/

theorem CheckedSince.append {history : List Event} {sid : SessionId} {userId : String}
    (h : CheckedSince history sid userId) {events : List Event}
    (hquiet : .revoked userId ∉ events) : CheckedSince (history ++ events) sid userId := by
  obtain ⟨before, after, rfl, hafter⟩ := h
  refine ⟨before, after ++ events, by simp, ?_⟩
  rw [List.mem_append]
  exact not_or.mpr ⟨hafter, hquiet⟩

theorem checkedSince_self (history : List Event) (sid : SessionId) (userId : String) :
    CheckedSince (history ++ [.checked sid userId]) sid userId :=
  ⟨history, [], rfl, List.not_mem_nil⟩

/-! ## What a step leaves alone -/

/-- A step of the session `sid` from `s` to `s'`: the other sessions keep their state and their
locks, the rows that they have locked keep their columns, versions do not fall, and a revocation
raises the version of a row that `sid` has locked. -/
structure Frame (s : System) (sid : SessionId) (s' : System) (events : List Event) : Prop where
  sessions : ∀ sid', sid' ≠ sid → s'.sessions sid' = s.sessions sid'
  locks : ∀ userId sid', sid' ≠ sid → s.locks userId = some sid' → s'.locks userId = some sid'
  rows : ∀ userId row, s.users.lookup userId = some row →
    ∃ row', s'.users.lookup userId = some row' ∧ row.tokenVersion ≤ row'.tokenVersion ∧
      ((s.locks userId).any (· ≠ sid) = true → row' = row) ∧
      (.revoked userId ∈ events → row.tokenVersion < row'.tokenVersion)
  revoked : ∀ userId, .revoked userId ∈ events → s.locks userId = some sid ∧
    ∀ sid' session, s.sessions sid' = some session → ¬ session.awaitsLoad userId

section Frame

variable {s s' : System} {sid : SessionId} {events : List Event} {history : List Event}

theorem Frame.lookup_locked (h : Frame s sid s' events) {sid' : SessionId} (hne : sid' ≠ sid)
    {row : UserRow} (hlock : s.locks row.userId = some sid')
    (hrow : s.users.lookup row.userId = some row) : s'.users.lookup row.userId = some row := by
  obtain ⟨row', hrow', -, hsame, -⟩ := h.rows row.userId row hrow
  rw [hsame (by simp [hlock, hne])] at hrow'
  exact hrow'

theorem Frame.not_revoked (h : Frame s sid s' events) {sid' : SessionId} (hne : sid' ≠ sid)
    {userId : String} (hlock : s.locks userId = some sid') : .revoked userId ∉ events := by
  intro hmem
  have hown := (h.revoked userId hmem).1
  exact hne (Option.some.inj (hlock.symm.trans hown))

theorem SessionInv.frame (h : Frame s sid s' events) {sid' : SessionId} (hne : sid' ≠ sid)
    {session : Session} (hsession : s.sessions sid' = some session)
    (hinv : SessionInv history s sid' session) :
    SessionInv (history ++ events) s' sid' session := by
  cases session with
  | writing kind row row' =>
    obtain ⟨hlock, hrow, hid, hrehash, hle, hlt⟩ := hinv
    refine ⟨h.locks _ _ hne hlock, h.lookup_locked hne hlock hrow, hid, fun hkind => ?_, hle, hlt⟩
    obtain ⟨hchecked, hversion⟩ := hrehash hkind
    exact ⟨hchecked.append (h.not_revoked hne hlock), hversion⟩
  | authenticated row =>
    obtain ⟨hlock, hrow, hchecked⟩ := hinv
    exact ⟨h.locks _ _ hne hlock, h.lookup_locked hne hlock hrow,
      hchecked.append (h.not_revoked hne hlock)⟩
  | loading issues userId =>
    cases issues with
    | false => trivial
    | true =>
      have hchecked : CheckedSince history sid' userId := hinv
      refine hchecked.append fun hmem => ?_
      exact (h.revoked userId hmem).2 sid' _ hsession ⟨rfl, rfl⟩
  | ready call => trivial
  | nameFree args => trivial
  | accountFree args => trivial
  | adminsLocked args admins => trivial
  | finished result => trivial

theorem IssuedInv.frame (h : Frame s sid s' events) {sid' : SessionId} {token : String}
    (hinv : IssuedInv host history s sid' token) :
    IssuedInv host (history ++ events) s' sid' token := by
  obtain ⟨now, row, htoken, current, hcurrent, hle, hchecked⟩ := hinv
  obtain ⟨current', hcurrent', hmono, -, hlt⟩ := h.rows row.userId current hcurrent
  refine ⟨now, row, htoken, current', hcurrent', hle.trans hmono, fun hversion => ?_⟩
  have hsame : row.tokenVersion = current.tokenVersion := by omega
  refine (hchecked hsame).append fun hmem => ?_
  have hraised := hlt hmem
  omega

theorem Inv.frame (hinv : Inv host history s) (h : Frame s sid s' events)
    (hself : ∀ session, s'.sessions sid = some session →
      SessionInv (history ++ events) s' sid session)
    (hissued : ∀ sid' token, .issued sid' token ∈ events →
      IssuedInv host (history ++ events) s' sid' token) :
    Inv host (history ++ events) s' := by
  constructor
  · intro sid' session hsession
    by_cases hsid : sid' = sid
    · subst hsid
      exact hself session hsession
    · rw [h.sessions sid' hsid] at hsession
      exact (hinv.session sid' session hsession).frame h hsid hsession
  · intro sid' token hmem
    rcases List.mem_append.mp hmem with hmem | hmem
    · exact (hinv.issued sid' token hmem).frame h
    · exact hissued sid' token hmem

end Frame

/-! ## Steps that write no row -/

/-- The rows, and the other sessions with their locks, are as before. -/
structure Still (s : System) (sid : SessionId) (s' : System) : Prop where
  users : s'.users = s.users
  sessions : ∀ sid', sid' ≠ sid → s'.sessions sid' = s.sessions sid'
  locks : ∀ userId sid', sid' ≠ sid → s.locks userId = some sid' → s'.locks userId = some sid'

section Still

variable {s s' : System} {sid : SessionId} {history : List Event}

theorem Still.refl (s : System) (sid : SessionId) : Still s sid s :=
  ⟨rfl, fun _ _ => rfl, fun _ _ _ h => h⟩

theorem Still.trans {s'' : System} (h : Still s sid s') (h' : Still s' sid s'') :
    Still s sid s'' where
  users := h'.users.trans h.users
  sessions sid' hne := (h'.sessions sid' hne).trans (h.sessions sid' hne)
  locks userId sid' hne hlock := h'.locks userId sid' hne (h.locks userId sid' hne hlock)

theorem still_goto (s : System) (sid : SessionId) (session : Session) :
    Still s sid (s.goto sid session) :=
  ⟨rfl, fun _ hne => Function.update_of_ne hne _ _, fun _ _ _ h => h⟩

theorem locks_release {userId : String} {sid' : SessionId} (hne : sid' ≠ sid)
    (h : s.locks userId = some sid') : (s.release sid).locks userId = some sid' := by
  have hother : ¬ s.locks userId = some sid := by
    rw [h]
    exact fun heq => hne (Option.some.inj heq)
  show (if s.locks userId = some sid then none else s.locks userId) = some sid'
  rw [if_neg hother, h]

theorem still_release (s : System) (sid : SessionId) : Still s sid (s.release sid) :=
  ⟨rfl, fun _ _ => rfl, fun _ _ hne h => locks_release hne h⟩

theorem still_finish (s : System) (sid : SessionId) (result : Result) :
    Still s sid (s.finish sid result) :=
  (still_release s sid).trans (still_goto (s.release sid) sid (.finished result))

theorem still_lock {rows : List UserRow} (hfree : s.isFree sid rows = true) :
    Still s sid (s.lock sid rows) := by
  refine ⟨rfl, fun _ _ => rfl, fun userId sid' hne hlock => ?_⟩
  show (if rows.any fun row => row.userId = userId then some sid else s.locks userId) = some sid'
  rw [if_neg, hlock]
  intro hany
  obtain ⟨row, hrow, hid⟩ := List.any_eq_true.mp hany
  have hfreeRow := List.all_eq_true.mp hfree row hrow
  rw [of_decide_eq_true hid, hlock] at hfreeRow
  simp [hne] at hfreeRow

theorem locks_lock {rows : List UserRow} {row : UserRow} (h : row ∈ rows) :
    (s.lock sid rows).locks row.userId = some sid := by
  show (if rows.any fun row' => row'.userId = row.userId then some sid else _) = some sid
  rw [if_pos]
  exact List.any_eq_true.mpr ⟨row, h, by simp⟩

theorem Still.frame (h : Still s sid s') {events : List Event}
    (hquiet : ∀ userId, .revoked userId ∉ events) : Frame s sid s' events where
  sessions := h.sessions
  locks := h.locks
  rows userId row hrow :=
    ⟨row, by rw [h.users, hrow], le_refl _, fun _ => rfl, fun hmem => absurd hmem (hquiet userId)⟩
  revoked userId hmem := absurd hmem (hquiet userId)

@[simp] theorem sessions_goto (s : System) (sid : SessionId) (session : Session) :
    (s.goto sid session).sessions sid = some session := Function.update_self ..

@[simp] theorem sessions_finish (s : System) (sid : SessionId) (result : Result) :
    (s.finish sid result).sessions sid = some (.finished result) := Function.update_self ..

/-- What a statement without events leaves: no row is written, and what is to hold of the session
does. -/
structure Settles (history : List Event) (s : System) (sid : SessionId) (s' : System) : Prop where
  still : Still s sid s'
  self : ∀ session, s'.sessions sid = some session → SessionInv history s' sid session

theorem Settles.inv (h : Settles history s sid s') (hinv : Inv host history s) :
    Inv host (history ++ []) s' := by
  refine hinv.frame (h.still.frame fun _ => List.not_mem_nil) ?_ ?_
  · rw [List.append_nil]
    exact h.self
  · intro sid' token hmem
    cases hmem

theorem settles_wait (hinv : Inv host history s) : Settles history s sid s :=
  ⟨Still.refl s sid, hinv.session sid⟩

theorem settles_goto {session : Session} (h : SessionInv history (s.goto sid session) sid session) :
    Settles history s sid (s.goto sid session) := by
  refine ⟨still_goto s sid session, fun session' hsession => ?_⟩
  rw [sessions_goto] at hsession
  obtain rfl := Option.some.inj hsession
  exact h

theorem settles_finish (result : Result) : Settles history s sid (s.finish sid result) := by
  refine ⟨still_finish s sid result, fun session hsession => ?_⟩
  rw [sessions_finish] at hsession
  obtain rfl := Option.some.inj hsession
  trivial

theorem Settles.after_still {s'' : System} (h : Still s sid s') (h' : Settles history s' sid s'') :
    Settles history s sid s'' :=
  ⟨h.trans h'.still, h'.self⟩

end Still

/-! ## The changes of a row -/

/-- A change keeps the user and does not lower the version; a revocation raises it. -/
def Raises (change : UserRow → Except String (Kind × UserRow)) : Prop :=
  ∀ row kind row', change row = .ok (kind, row') → row'.userId = row.userId ∧ kind ≠ .rehash ∧
    row.tokenVersion ≤ row'.tokenVersion ∧
    (revokes kind row row' = true → row.tokenVersion < row'.tokenVersion)

theorem raises_changePassword (salt oldPassword newPassword : String) :
    Raises (host.changePasswordInSession salt oldPassword newPassword) := by
  intro row kind row' h
  obtain ⟨-, -, h⟩ := bind_eq_ok.mp h
  obtain ⟨-, h⟩ := ite_error_eq_ok.mp h
  obtain ⟨rfl, rfl⟩ := Prod.mk.inj (Except.ok.inj h)
  have hlt : row.tokenVersion < (host.withPassword salt newPassword row).tokenVersion :=
    Int.lt_add_one_iff.mpr (le_refl _)
  exact ⟨rfl, by simp, hlt.le, fun _ => hlt⟩

theorem raises_resetPassword (salt newPassword : String) :
    Raises (host.resetPasswordInSession salt newPassword) := by
  intro row kind row' h
  obtain ⟨rfl, rfl⟩ := Prod.mk.inj (Except.ok.inj h)
  have hlt : row.tokenVersion < (host.withPassword salt newPassword row).tokenVersion :=
    Int.lt_add_one_iff.mpr (le_refl _)
  exact ⟨rfl, by simp, hlt.le, fun _ => hlt⟩

theorem raises_revoke : Raises revokeInSession := by
  intro row kind row' h
  obtain ⟨rfl, rfl⟩ := Prod.mk.inj (Except.ok.inj h)
  have hlt : row.tokenVersion < row.tokenVersion + 1 := Int.lt_add_one_iff.mpr (le_refl _)
  exact ⟨rfl, by simp, hlt.le, fun _ => hlt⟩

theorem columns_tokenVersion (args : SetFlags) (row : UserRow) :
    (args.columns row).tokenVersion =
      if row.isActive ∧ ¬ args.isActive.getD row.isActive then row.tokenVersion + 1
      else row.tokenVersion := rfl

theorem raises_flags (args : SetFlags) (admins : List UserRow) : Raises (args.inSession admins) := by
  intro row kind row' h
  obtain ⟨-, h⟩ := ite_error_eq_ok.mp h
  obtain ⟨-, h⟩ := ite_error_eq_ok.mp h
  obtain ⟨rfl, rfl⟩ := Prod.mk.inj (Except.ok.inj h)
  refine ⟨rfl, by simp, ?_, fun hrevokes => ?_⟩
  · rw [columns_tokenVersion]
    split_ifs <;> omega
  · have hoff : row.isActive = true ∧ args.isActive.getD row.isActive = false := by
      simpa [revokes, SetFlags.columns] using hrevokes
    rw [columns_tokenVersion, if_pos ⟨hoff.1, by simp [hoff.2]⟩]
    omega

/-! ## The first statements of a call -/

section Statements

variable {s : System} {sid : SessionId} {history : List Event}

theorem settles_decide {change : UserRow → Except String (Kind × UserRow)} (hchange : Raises change)
    {row : UserRow} (hlock : s.locks row.userId = some sid)
    (hrow : s.users.lookup row.userId = some row) :
    Settles history s sid (s.decide sid (change row) row) := by
  cases hresult : change row with
  | error message => exact settles_finish _
  | ok changed =>
    obtain ⟨kind, row'⟩ := changed
    obtain ⟨hid, hkind, hle, hlt⟩ := hchange row kind row' hresult
    apply settles_goto
    exact ⟨hlock, hrow, hid, fun h => absurd h hkind, hle, hlt⟩

theorem settles_selectUser (hinv : Inv host history s)
    {change : UserRow → Except String (Kind × UserRow)} (hchange : Raises change)
    (userId : String) : Settles history s sid (s.selectUser sid userId change) := by
  unfold System.selectUser
  cases hrow : s.users.lookup userId with
  | none => exact settles_finish _
  | some row =>
    obtain ⟨hmem, rfl⟩ := Table.lookup_eq_some.mp hrow
    by_cases hfree : s.isFree sid [row] = true
    · simp only [if_pos hfree]
      apply Settles.after_still (still_lock hfree)
      exact settles_decide hchange (locks_lock (List.mem_singleton_self row)) hrow
    · simp only [if_neg hfree]
      exact settles_wait hinv

theorem settles_selectAdmins (hinv : Inv host history s) (args : SetFlags) :
    Settles history s sid (s.selectAdmins sid args) := by
  unfold System.selectAdmins
  dsimp only
  generalize hadmins : (s.users.select fun u => u.isActive && u.isAdmin) = admins
  by_cases hfree : s.isFree sid admins = true
  · simp only [if_pos hfree]
    apply Settles.after_still (still_lock hfree)
    cases hfind : admins.find? fun u => u.userId = args.userId with
    | none =>
      apply settles_goto
      trivial
    | some row =>
      have hmem : row ∈ admins := List.mem_of_find?_eq_some hfind
      have hrow : row ∈ s.users := by
        rw [← hadmins] at hmem
        exact (Table.mem_select.mp hmem).1
      exact settles_decide (raises_flags args admins) (locks_lock hmem) (Table.lookup_of_mem hrow)
  · simp only [if_neg hfree]
    exact settles_wait hinv

theorem settles_beginRegister (args : Register) :
    Settles history s sid (s.beginRegister host sid args) := by
  unfold System.beginRegister
  dsimp only
  by_cases hreserved : host.stripLower host.defaultAdminUsername ≠ "" ∧
      host.stripLower args.username = host.stripLower host.defaultAdminUsername
  · rw [if_pos hreserved]
    exact settles_finish _
  · rw [if_neg hreserved]
    cases validateNewPassword args.password with
    | error message => exact settles_finish _
    | ok _ =>
      dsimp only
      split_ifs
      · exact settles_finish _
      · apply settles_goto
        trivial

theorem settles_checkEmail (args : Register) : Settles history s sid (s.checkEmail sid args) := by
  unfold System.checkEmail
  split_ifs
  · exact settles_finish _
  · apply settles_goto
    trivial

theorem inv_selectLogin (hinv : Inv host history s) (username password salt : String) :
    Inv host (history ++ (s.selectLogin host sid username password salt).2)
      (s.selectLogin host sid username password salt).1 := by
  unfold System.selectLogin
  cases hfind : s.users.rows.find? fun u => u.username = username with
  | none => exact (settles_finish _).inv hinv
  | some row =>
    have hmem : row ∈ s.users := List.mem_of_find?_eq_some hfind
    by_cases hfree : s.isFree sid [row] = true
    · simp only [if_pos hfree]
      cases host.checkLogin password row with
      | error message => exact (settles_finish _).inv hinv
      | ok _ =>
        have hstill : Still s sid
            ((s.lock sid [row]).goto sid (host.loggedIn salt password row)) :=
          (still_lock hfree).trans (still_goto _ sid _)
        refine hinv.frame (hstill.frame (by simp)) ?_ (by simp)
        intro session hsession
        rw [sessions_goto] at hsession
        obtain rfl := Option.some.inj hsession
        have hlock : (s.lock sid [row]).locks row.userId = some sid :=
          locks_lock (List.mem_singleton_self row)
        have hchecked := checkedSince_self history sid row.userId
        unfold Host.loggedIn
        split_ifs
        · refine ⟨hlock, Table.lookup_of_mem hmem, rfl, fun _ => ⟨hchecked, rfl⟩, le_refl _, ?_⟩
          intro hrevokes
          simp [revokes] at hrevokes
        · exact ⟨hlock, Table.lookup_of_mem hmem, hchecked⟩
    · simp only [if_neg hfree]
      have hwait : Settles history s sid s := settles_wait hinv
      exact hwait.inv hinv

theorem inv_enter (hinv : Inv host history s) (call : Call) :
    Inv host (history ++ (s.enter host sid call).2) (s.enter host sid call).1 := by
  cases call with
  | register args => exact (settles_beginRegister args).inv hinv
  | authenticate username password salt => exact inv_selectLogin hinv username password salt
  | changePassword userId oldPassword newPassword salt =>
    dsimp only [System.enter]
    cases validateNewPassword newPassword with
    | error message => exact (settles_finish _).inv hinv
    | ok _ =>
      exact (settles_selectUser hinv (raises_changePassword salt oldPassword newPassword)
        userId).inv hinv
  | resetPassword userId newPassword salt =>
    dsimp only [System.enter]
    cases validateNewPassword newPassword with
    | error message => exact (settles_finish _).inv hinv
    | ok _ =>
      exact (settles_selectUser hinv (raises_resetPassword salt newPassword) userId).inv hinv
  | revokeSessions userId => exact (settles_selectUser hinv raises_revoke userId).inv hinv
  | setAccountFlags args =>
    dsimp only [System.enter]
    split_ifs
    · exact (settles_selectAdmins hinv args).inv hinv
    · exact (settles_selectUser hinv (raises_flags args []) args.userId).inv hinv

end Statements

/-! ## Commits and tokens -/

section Commits

variable {s : System} {sid : SessionId} {history : List Event}

theorem inv_insertUser (hinv : Inv host history s) (args : Register) :
    Inv host (history ++ (s.insertUser host sid args).2) (s.insertUser host sid args).1 := by
  unfold System.insertUser
  dsimp only
  split_ifs
  · exact (settles_finish _).inv hinv
  · cases hinsert : s.users.insert (host.newUser args) with
    | none => exact (settles_finish _).inv hinv
    | some users =>
      dsimp only
      have hframe : Frame s sid
          (({ s with users := users }.release sid).goto sid (.loading true args.userId))
          [.checked sid args.userId] := by
        refine ⟨fun _ hne => Function.update_of_ne hne _ _, fun _ _ hne h => locks_release hne h,
          fun userId row hrow => ?_, fun _ hmem => by simp at hmem⟩
        refine ⟨row, ?_, le_refl _, fun _ => rfl, fun hmem => by simp at hmem⟩
        show users.lookup userId = some row
        rw [Table.lookup_insert hinsert, if_neg, hrow]
        obtain ⟨hmem, rfl⟩ := Table.lookup_eq_some.mp hrow
        exact fun hkey => (Table.insert_eq_some.mp hinsert).1 row hmem hkey.symm
      refine hinv.frame hframe ?_ (by simp)
      intro session hsession
      rw [sessions_goto] at hsession
      obtain rfl := Option.some.inj hsession
      exact checkedSince_self history sid args.userId

theorem frame_write {kind : Kind} {row row' : UserRow}
    (hself : SessionInv history s sid (.writing kind row row'))
    (hquiet : revokes kind row row' = true → ∀ sid' session, s.sessions sid' = some session →
      ¬ session.awaitsLoad row.userId) :
    Frame s sid (s.write sid kind row row').1 (s.write sid kind row row').2 := by
  obtain ⟨hlock, hrow, hid, -, hle, hlt⟩ := hself
  have hevents : ∀ userId, .revoked userId ∈ (s.write sid kind row row').2 →
      userId = row.userId ∧ revokes kind row row' = true := by
    intro userId hmem
    unfold System.write at hmem
    dsimp only at hmem
    split_ifs at hmem with hrevokes
    · exact ⟨by simpa using hmem, hrevokes⟩
    · cases hmem
  have hversion : (flush row row' row).tokenVersion = row'.tokenVersion := by
    unfold flush
    dsimp only
    split_ifs with h
    · rfl
    · omega
  refine ⟨fun _ hne => Function.update_of_ne hne _ _, fun _ _ hne h => locks_release hne h, ?_, ?_⟩
  · intro userId u hu
    have hafter : (s.write sid kind row row').1.users.lookup userId =
        if userId = row.userId then some (flush row row' row) else s.users.lookup userId := by
      show (s.users.update row.userId (flush row row') (key_flush row row')).lookup userId = _
      rw [Table.lookup_update, hrow]
      rfl
    by_cases huser : userId = row.userId
    · obtain rfl : u = row := Option.some.inj (hu.symm.trans (huser ▸ hrow))
      refine ⟨flush u row' u, by rw [hafter, if_pos huser], ?_, ?_, ?_⟩
      · rw [hversion]
        exact hle
      · intro hother
        rw [huser, hlock] at hother
        simp at hother
      · intro hmem
        rw [hversion]
        exact hlt (hevents userId hmem).2
    · refine ⟨u, by rw [hafter, if_neg huser, hu], le_refl _, fun _ => rfl, fun hmem => ?_⟩
      exact absurd (hevents userId hmem).1 huser
  · intro userId hmem
    obtain ⟨rfl, hrevokes⟩ := hevents userId hmem
    exact ⟨hlock, hquiet hrevokes⟩

theorem inv_write (hinv : Inv host history s) {kind : Kind} {row row' : UserRow}
    (hsession : s.sessions sid = some (.writing kind row row'))
    (hquiet : revokes kind row row' = true → ∀ sid' session, s.sessions sid' = some session →
      ¬ session.awaitsLoad row.userId) :
    Inv host (history ++ (s.write sid kind row row').2) (s.write sid kind row row').1 := by
  have hself := hinv.session sid _ hsession
  refine hinv.frame (frame_write hself hquiet) ?_ ?_
  · intro session hafter
    have hgoto : (s.write sid kind row row').1.sessions sid = some (afterWrite kind row.userId) :=
      Function.update_self ..
    obtain rfl := Option.some.inj (hgoto.symm.trans hafter)
    cases kind with
    | rehash =>
      obtain ⟨hchecked, -⟩ := hself.2.2.2.1 rfl
      refine hchecked.append ?_
      simp [System.write, revokes]
    | flags => trivial
    | passwordChange => trivial
    | passwordReset => trivial
    | revocation => trivial
  · intro sid' token hmem
    unfold System.write at hmem
    dsimp only at hmem
    split_ifs at hmem <;> simp at hmem

theorem inv_issue (hinv : Inv host history s) (now : Int) {row : UserRow}
    (hrow : s.users.lookup row.userId = some row) (hchecked : CheckedSince history sid row.userId) :
    Inv host (history ++ [.issued sid (host.createAccessToken now row)])
      (s.finish sid (.token (host.createAccessToken now row))) := by
  refine hinv.frame ((still_finish s sid _).frame (by simp)) ?_ ?_
  · intro session hsession
    rw [sessions_finish] at hsession
    obtain rfl := Option.some.inj hsession
    trivial
  · intro sid' token hmem
    obtain ⟨rfl, rfl⟩ : sid' = sid ∧ token = host.createAccessToken now row := by simpa using hmem
    exact ⟨now, row, rfl, row, hrow, le_refl _, fun _ => hchecked.append (by simp)⟩

theorem inv_load (hinv : Inv host history s) (now : Int) {issues : Bool} {userId : String}
    (hsession : s.sessions sid = some (.loading issues userId)) :
    Inv host (history ++ (s.load host sid now issues userId).2)
      (s.load host sid now issues userId).1 := by
  have hself := hinv.session sid _ hsession
  unfold System.load
  cases hrow : s.users.lookup userId with
  | none => exact (settles_finish _).inv hinv
  | some row =>
    obtain ⟨-, rfl⟩ := Table.lookup_eq_some.mp hrow
    cases issues with
    | false => exact (settles_finish _).inv hinv
    | true => exact inv_issue hinv now hrow hself

end Commits

/-! ## Runs -/

theorem inv_act {history : List Event} {s : System} {a : Action} (hinv : Inv host history s)
    (hquiet : Quiet s a) : Inv host (history ++ host.emit s a) (host.step s a) := by
  cases a with
  | start sid call =>
    cases hsession : s.sessions sid with
    | none =>
      have hstep : host.act s (.start sid call) = (s.goto sid (.ready call), []) := by
        simp only [Host.act, hsession]
      rw [Host.emit, Host.step, hstep]
      have hready : Settles history s sid (s.goto sid (.ready call)) := settles_goto trivial
      exact hready.inv hinv
    | some session =>
      have hstep : host.act s (.start sid call) = (s, []) := by
        simp only [Host.act, hsession]
      rw [Host.emit, Host.step, hstep]
      have hwait : Settles history s sid s := settles_wait hinv
      exact hwait.inv hinv
  | advance sid now =>
    show Inv host (history ++ (s.advance host sid now).2) (s.advance host sid now).1
    have hwait : Settles history s sid s := settles_wait hinv
    unfold System.advance
    cases hsession : s.sessions sid with
    | none => exact hwait.inv hinv
    | some session =>
      cases session with
      | ready call => exact inv_enter hinv call
      | nameFree args => exact (settles_checkEmail args).inv hinv
      | accountFree args => exact inv_insertUser hinv args
      | adminsLocked args admins =>
        exact (settles_selectUser hinv (raises_flags args admins) args.userId).inv hinv
      | writing kind row row' =>
        exact inv_write hinv hsession (hquiet kind row row' hsession)
      | authenticated row =>
        obtain ⟨-, hrow, hchecked⟩ := hinv.session sid _ hsession
        exact inv_issue hinv now hrow hchecked
      | loading issues userId => exact inv_load hinv now hsession
      | finished result => exact hwait.inv hinv
  | fail sid message =>
    have hwait : Settles history s sid s := settles_wait hinv
    have hfinish : Settles history s sid (s.finish sid (.raised message)) := settles_finish _
    dsimp only [Host.emit, Host.step, Host.act]
    split
    · exact hwait.inv hinv
    · exact hwait.inv hinv
    · exact hfinish.inv hinv

theorem inv_start (host : Host) (users : Table UserRow) : Inv host [] (System.start users) := by
  refine ⟨fun sid session h => ?_, fun sid token h => ?_⟩
  · cases h
  · cases h

theorem resolveCurrentUser_eq_some {users : Table UserRow} {now : Int} {token : String}
    {identity : Identity} (h : host.resolveCurrentUser users now token = some identity) :
    ∃ claims user, host.decode now token = some claims ∧
      readClaims claims = some (identity.userId, user.tokenVersion) ∧
      users.lookup identity.userId = some user ∧ user.isActive = true := by
  unfold Host.resolveCurrentUser at h
  obtain ⟨claims, hclaims, h⟩ := Option.bind_eq_some_iff.mp h
  obtain ⟨⟨userId, version⟩, hread, h⟩ := Option.bind_eq_some_iff.mp h
  obtain ⟨user, hlookup, h⟩ := Option.bind_eq_some_iff.mp h
  split_ifs at h with hrefused
  obtain rfl := Option.some.inj h
  obtain ⟨hactive, hversion⟩ := not_or.mp hrefused
  obtain ⟨-, rfl⟩ := Table.lookup_eq_some.mp hlookup
  refine ⟨claims, user, hclaims, ?_, hlookup, not_not.mp hactive⟩
  rw [hread, not_not.mp hversion]
  rfl

theorem readClaims_claims {now : Int} {row : UserRow} {userId : String} {version : Int}
    (h : readClaims (host.claims now row) = some (userId, version)) :
    userId = row.userId ∧ version = row.tokenVersion := by
  have hread : readClaims (host.claims now row) =
      if row.userId = "" ∨ row.username = "" then none else some (row.userId, row.tokenVersion) :=
    rfl
  rw [hread] at h
  split_ifs at h
  obtain ⟨rfl, rfl⟩ := Prod.mk.inj (Option.some.inj h)
  exact ⟨rfl, rfl⟩

/-- Whenever `resolve_current_user` accepts a token, its user is active, and every call that issued
the token checked the password, or created the account, after the last committed revocation of the
user: in every run in which no revocation of a user is committed while a session has yet to load the
version after its own commit. -/
theorem token_checked_since_revocation (host : Host) (users : Table UserRow) (acts : List Action)
    (hquiet : Admits host.step Quiet (System.start users) acts) {now : Int} {token : String}
    {identity : Identity}
    (haccepted : host.resolveCurrentUser (exec host.step (System.start users) acts).users now token =
      some identity) :
    (∃ user, (exec host.step (System.start users) acts).users.lookup identity.userId = some user ∧
      user.isActive = true) ∧
    ∀ sid, .issued sid token ∈ events host.step host.emit (System.start users) acts →
      CheckedSince (events host.step host.emit (System.start users) acts) sid identity.userId := by
  obtain ⟨claims, user, hclaims, hread, hlookup, hactive⟩ := resolveCurrentUser_eq_some haccepted
  have hinv := events_invariant (fun _ _ _ hinv hquiet => inv_act hinv hquiet) acts []
    (System.start users) (inv_start host users) hquiet
  refine ⟨⟨user, hlookup, hactive⟩, fun sid hissued => ?_⟩
  obtain ⟨issuedAt, row, rfl, current, hcurrent, -, hchecked⟩ := hinv.issued sid token hissued
  obtain rfl := host.decode_encode _ _ _ hclaims
  obtain ⟨huser, hversion⟩ := readClaims_claims hread
  rw [huser] at hlookup ⊢
  obtain rfl := Option.some.inj (hlookup.symm.trans hcurrent)
  exact hchecked hversion.symm

/-! ## A login that a revocation overtakes -/

def aliceClaims : Json :=
  .obj [("sub", .str "u1"), ("username", .str "alice"), ("ver", .int 1), ("exp", .int 3600),
    ("iat", .int 0)]

def isAliceClaims : Json → Bool
  | .obj [(k₁, .str sub), (k₂, .str username), (k₃, .int ver), (k₄, .int exp), (k₅, .int iat)] =>
    k₁ = "sub" && sub = "u1" && k₂ = "username" && username = "alice" && k₃ = "ver" && ver = 1 &&
      k₄ = "exp" && exp = 3600 && k₅ = "iat" && iat = 0
  | _ => false

theorem eq_aliceClaims {claims : Json} (h : isAliceClaims claims = true) :
    claims = aliceClaims := by
  unfold isAliceClaims at h
  split at h
  · simp only [Bool.and_eq_true, decide_eq_true_eq] at h
    obtain ⟨⟨⟨⟨⟨⟨⟨⟨⟨rfl, rfl⟩, rfl⟩, rfl⟩, rfl⟩, rfl⟩, rfl⟩, rfl⟩, rfl⟩, rfl⟩ := h
    rfl
  · cases h

def smallHost : Host where
  argon2Verify hashed plain := hashed = "$argon2id$" ++ plain
  checkNeedsRehash _ := false
  argon2Hash _ password := "$argon2id$" ++ password
  bcryptCheckpw plain _ := plain = utf8 "correct horse"
  isDecimal := Char.isDigit
  stripLower := id
  defaultAdminUsername := ""
  expireSeconds := 3600
  encode claims := if isAliceClaims claims then "token" else ""
  decode _ token := if token = "token" then some aliceClaims else none
  decode_encode _ claims claims' h := by
    by_cases halice : isAliceClaims claims = true
    · rw [if_pos halice, if_pos rfl] at h
      rw [eq_aliceClaims halice]
      exact (Option.some.inj h).symm
    · rw [if_neg halice, if_neg (by decide)] at h
      cases h

def aliceRow (hashedPassword : String) (tokenVersion : Int) : UserRow where
  userId := "u1"
  username := "alice"
  email := none
  hashedPassword := hashedPassword
  isActive := true
  isAdmin := false
  tokenVersion := tokenVersion

def aliceUsers (hashedPassword : String) (tokenVersion : Int) : Table UserRow :=
  ⟨[aliceRow hashedPassword tokenVersion], by simp⟩

def legacyHash : String := "$2b$12$abcdefghijklmnopqrstuuVxyzABCDEFGHIJKLMNOPQRSTUVWXYZ0"

/-- The sessions are revoked between the commit of the new hash and the read of the version. -/
def overtakenLogin : List Action :=
  [.start 1 (.authenticate "alice" "correct horse" "salt"), .advance 1 0, .advance 1 0,
    .start 2 (.revokeSessions "u1"), .advance 2 0, .advance 2 0, .advance 1 0]

def plainLogin : List Action :=
  [.start 1 (.authenticate "alice" "correct horse" "salt"), .advance 1 0, .advance 1 0]

/-- The token of a plain login is accepted, and no revocation has followed its check. -/
theorem plainLogin_checked :
    CheckedSince (events smallHost.step smallHost.emit
      (System.start (aliceUsers "$argon2id$correct horse" 1)) plainLogin) 1 "u1" := by
  have hquiet : Admits smallHost.step Quiet
      (System.start (aliceUsers "$argon2id$correct horse" 1)) plainLogin := by
    refine ⟨trivial, fun kind row row' h => ?_, fun kind row row' h => ?_, trivial⟩
    · cases h
    · cases h
  have haccepted : smallHost.resolveCurrentUser
      (exec smallHost.step (System.start (aliceUsers "$argon2id$correct horse" 1)) plainLogin).users
      0 "token" = some ⟨"u1", "alice", false, true⟩ := rfl
  exact (token_checked_since_revocation smallHost _ plainLogin hquiet haccepted).2 1
    (List.mem_cons_of_mem _ (List.mem_cons_self ..))

theorem events_overtakenLogin :
    events smallHost.step smallHost.emit (System.start (aliceUsers legacyHash 0)) overtakenLogin =
      [.checked 1 "u1", .revoked "u1", .issued 1 "token"] := rfl

/-- The token of a login that a revocation overtakes is accepted, although the password was checked
before the revocation only. -/
theorem overtaken_login_accepted :
    smallHost.resolveCurrentUser
        (exec smallHost.step (System.start (aliceUsers legacyHash 0)) overtakenLogin).users
        0 "token" = some ⟨"u1", "alice", false, true⟩ ∧
      .issued 1 "token" ∈ events smallHost.step smallHost.emit
        (System.start (aliceUsers legacyHash 0)) overtakenLogin ∧
      ¬ CheckedSince (events smallHost.step smallHost.emit
        (System.start (aliceUsers legacyHash 0)) overtakenLogin) 1 "u1" := by
  refine ⟨rfl, by simp [events_overtakenLogin], ?_⟩
  rintro ⟨before, after, hsplit, hrevoked⟩
  rw [events_overtakenLogin] at hsplit
  apply hrevoked
  cases before with
  | nil =>
    obtain ⟨-, rfl⟩ := List.cons.inj hsplit
    simp
  | cons event before =>
    -- the check is the first event, and the only one
    obtain ⟨-, hrest⟩ := List.cons.inj hsplit
    have hmem : Event.checked 1 "u1" ∈ [Event.revoked "u1", Event.issued 1 "token"] := by
      rw [hrest]
      simp
    simp at hmem

end Auth
