import TrainFactory.Auth.Users
import Mathlib.Logic.Function.Basic

/-!
# Sessions on the table of users

The operations of the user service as programs whose statements interleave. A `SELECT ... FOR UPDATE`
waits for the sessions that have locked a row; a session that has its locks keeps them until it
commits or is rolled back. A commit expires what the session has loaded, so that a later read of an
attribute loads the row again.
-/

namespace Auth

open Lib

abbrev SessionId := Nat

/-- The arguments of `register`, the id of the new user and the salt of the hash. -/
structure Register where
  username : String
  password : String
  email : Option String
  userId : String
  salt : String

/-- A call of the user service, with the salt of the hash that it may compute. -/
inductive Call where
  | register (args : Register)
  | authenticate (username password salt : String)
  | changePassword (userId oldPassword newPassword salt : String)
  | resetPassword (userId newPassword salt : String)
  | revokeSessions (userId : String)
  | setAccountFlags (args : SetFlags)

/-- What a call returns or raises. -/
inductive Result where
  | raised (message : String)
  | token (token : String)
  | user (user : UserRow)
  | changed

/-- The point at which a call is. -/
inductive Session where
  | ready (call : Call)
  /-- The name of a new user is not taken. -/
  | nameFree (args : Register)
  /-- Neither is the address. -/
  | accountFree (args : Register)
  /-- The active administrators are locked, and the user is not one of them. -/
  | adminsLocked (args : SetFlags) (admins : List UserRow)
  /-- The row is locked and changed, but not written yet. -/
  | writing (kind : Kind) (row row' : UserRow)
  /-- The password matches the locked row, of which the token is made. -/
  | authenticated (row : UserRow)
  /-- The row is committed, and is loaded again for the token or the result. -/
  | loading (issues : Bool) (userId : String)
  | finished (result : Result)

structure System where
  users : Table UserRow
  /-- The session that has locked the row of a user. -/
  locks : String → Option SessionId
  sessions : SessionId → Option Session

/-- The state in which nothing runs. -/
def System.start (users : Table UserRow) : System := ⟨users, fun _ => none, fun _ => none⟩

/-- What a step does that the claims about tokens speak of. -/
inductive Event where
  /-- A password was checked, or an account created. -/
  | checked (sid : SessionId) (userId : String)
  /-- A call returns a token. -/
  | issued (sid : SessionId) (token : String)
  /-- The sessions of a user are revoked. -/
  | revoked (userId : String)
  deriving DecidableEq

/-! ## Statements -/

def System.goto (s : System) (sid : SessionId) (session : Session) : System :=
  { s with sessions := Function.update s.sessions sid (some session) }

def System.release (s : System) (sid : SessionId) : System :=
  { s with locks := fun userId => if s.locks userId = some sid then none else s.locks userId }

/-- The call returns or raises, and its transaction ends. -/
def System.finish (s : System) (sid : SessionId) (result : Result) : System :=
  (s.release sid).goto sid (.finished result)

def System.isFree (s : System) (sid : SessionId) (rows : List UserRow) : Bool :=
  rows.all fun row => s.locks row.userId = none || s.locks row.userId = some sid

def System.lock (s : System) (sid : SessionId) (rows : List UserRow) : System :=
  { s with locks := fun userId =>
      if rows.any fun row => row.userId = userId then some sid else s.locks userId }

/-- The `UPDATE` of the columns that differ. -/
def flush (row row' : UserRow) (u : UserRow) : UserRow :=
  { u with
    hashedPassword :=
      if row'.hashedPassword ≠ row.hashedPassword then row'.hashedPassword else u.hashedPassword
    isActive := if row'.isActive ≠ row.isActive then row'.isActive else u.isActive
    isAdmin := if row'.isAdmin ≠ row.isAdmin then row'.isAdmin else u.isAdmin
    tokenVersion :=
      if row'.tokenVersion ≠ row.tokenVersion then row'.tokenVersion else u.tokenVersion }

theorem key_flush (row row' u : UserRow) : Keyed.key (flush row row' u) = Keyed.key u := rfl

def revokes (kind : Kind) (row row' : UserRow) : Bool :=
  kind = .passwordChange || kind = .passwordReset || kind = .revocation ||
    (kind = .flags && row.isActive && !row'.isActive)

def afterWrite (kind : Kind) (userId : String) : Session :=
  match kind with
  | .rehash => .loading true userId
  | .flags | .passwordReset => .loading false userId
  | .passwordChange | .revocation => .finished .changed

def isTaken (users : Table UserRow) (args : Register) : Bool :=
  users.rows.any fun u => u.username = args.username ||
    (args.email.isSome && u.email = args.email)

section Steps

variable (host : Host) (s : System) (sid : SessionId)

def Host.newUser (host : Host) (args : Register) : UserRow where
  userId := args.userId
  username := args.username
  email := args.email
  hashedPassword := host.hashPassword args.salt args.password
  isActive := true
  isAdmin := false
  tokenVersion := 0

def System.decide (result : Except String (Kind × UserRow)) (row : UserRow) : System :=
  match result with
  | .error message => s.finish sid (.raised message)
  | .ok (kind, row') => s.goto sid (.writing kind row row')

/-- `SELECT ... WHERE user_id = ... FOR UPDATE`, and the change of the row. -/
def System.selectUser (userId : String) (change : UserRow → Except String (Kind × UserRow)) :
    System :=
  match s.users.lookup userId with
  | none => s.finish sid (.raised "User not found")
  | some row =>
    if s.isFree sid [row] then (s.lock sid [row]).decide sid (change row) row else s

/-- The session of a login whose password matches: the hash may have to be written first. -/
def Host.loggedIn (host : Host) (salt password : String) (row : UserRow) : Session :=
  if host.passwordNeedsRehash row.hashedPassword then
    .writing .rehash row (host.rehashed salt password row)
  else .authenticated row

/-- `SELECT ... WHERE username = ... FOR UPDATE` of `authenticate`, and the checks of the row. -/
def System.selectLogin (username password salt : String) : System × List Event :=
  match s.users.rows.find? fun u => u.username = username with
  | none => (s.finish sid (.raised "Invalid username or password"), [])
  | some row =>
    if s.isFree sid [row] then
      match host.checkLogin password row with
      | .error message => (s.finish sid (.raised message), [])
      | .ok _ =>
        ((s.lock sid [row]).goto sid (host.loggedIn salt password row), [.checked sid row.userId])
    else (s, [])

def System.selectAdmins (args : SetFlags) : System :=
  let admins := s.users.select fun u => u.isActive && u.isAdmin
  if s.isFree sid admins then
    let s := s.lock sid admins
    match admins.find? fun u => u.userId = args.userId with
    | some row => s.decide sid (args.inSession admins row) row
    | none => s.goto sid (.adminsLocked args admins)
  else s

/-- The reserved name, the policy for passwords, and the first `SELECT` of `register`. -/
def System.beginRegister (args : Register) : System :=
  let reserved := host.stripLower host.defaultAdminUsername
  if reserved ≠ "" ∧ host.stripLower args.username = reserved then
    s.finish sid (.raised ("Username '" ++ args.username ++ "' is reserved"))
  else
    match validateNewPassword args.password with
    | .error message => s.finish sid (.raised message)
    | .ok _ =>
      if s.users.rows.any fun u => u.username = args.username then
        s.finish sid (.raised ("Username '" ++ args.username ++ "' already exists"))
      else s.goto sid (.nameFree args)

/-- `SELECT ... WHERE email = ...` of `create_user`. -/
def System.checkEmail (args : Register) : System :=
  if truthy args.email && s.users.rows.any fun u => u.email = args.email then
    s.finish sid (.raised ("Email '" ++ args.email.getD "" ++ "' already registered"))
  else s.goto sid (.accountFree args)

def System.insertUser (args : Register) : System × List Event :=
  let taken := s.finish sid (.raised "Username or email already exists")
  if isTaken s.users args then (taken, [])
  else
    match s.users.insert (host.newUser args) with
    | none => (taken, [])
    | some users =>
      (({ s with users := users }.release sid).goto sid (.loading true args.userId),
        [.checked sid args.userId])

/-- `UPDATE` and `COMMIT`. -/
def System.write (kind : Kind) (row row' : UserRow) : System × List Event :=
  let users := s.users.update row.userId (flush row row') (key_flush row row')
  (({ s with users := users }.release sid).goto sid (afterWrite kind row.userId),
    if revokes kind row row' then [.revoked row.userId] else [])

/-- The row is loaded after the commit. -/
def System.load (now : Int) (issues : Bool) (userId : String) : System × List Event :=
  match s.users.lookup userId with
  | none => (s.finish sid (.raised "Could not refresh instance"), [])
  | some row =>
    if issues then
      let token := host.createAccessToken now row
      (s.finish sid (.token token), [.issued sid token])
    else (s.finish sid (.user row), [])

def System.enter (call : Call) : System × List Event :=
  match call with
  | .register args => (s.beginRegister host sid args, [])
  | .authenticate username password salt => s.selectLogin host sid username password salt
  | .changePassword userId oldPassword newPassword salt =>
    match validateNewPassword newPassword with
    | .error message => (s.finish sid (.raised message), [])
    | .ok _ =>
      (s.selectUser sid userId (host.changePasswordInSession salt oldPassword newPassword), [])
  | .resetPassword userId newPassword salt =>
    match validateNewPassword newPassword with
    | .error message => (s.finish sid (.raised message), [])
    | .ok _ => (s.selectUser sid userId (host.resetPasswordInSession salt newPassword), [])
  | .revokeSessions userId => (s.selectUser sid userId revokeInSession, [])
  | .setAccountFlags args =>
    if args.mustLockAdminsFirst then (s.selectAdmins sid args, [])
    else (s.selectUser sid args.userId (args.inSession []), [])

def System.advance (now : Int) : System × List Event :=
  match s.sessions sid with
  | none => (s, [])
  | some (.ready call) => s.enter host sid call
  | some (.nameFree args) => (s.checkEmail sid args, [])
  | some (.accountFree args) => s.insertUser host sid args
  | some (.adminsLocked args admins) =>
    (s.selectUser sid args.userId (args.inSession admins), [])
  | some (.writing kind row row') => s.write sid kind row row'
  | some (.authenticated row) =>
    let token := host.createAccessToken now row
    (s.finish sid (.token token), [.issued sid token])
  | some (.loading issues userId) => s.load host sid now issues userId
  | some (.finished _) => (s, [])

end Steps

/-! ## Runs -/

inductive Action where
  /-- A call, in a session of its own. -/
  | start (sid : SessionId) (call : Call)
  | advance (sid : SessionId) (now : Int)
  /-- A statement fails, and the session is rolled back. -/
  | fail (sid : SessionId) (message : String)

/-- A step, and what it does. -/
def Host.act (host : Host) (s : System) : Action → System × List Event
  | .start sid call =>
    (match s.sessions sid with
      | none => s.goto sid (.ready call)
      | some _ => s, [])
  | .advance sid now => s.advance host sid now
  | .fail sid message =>
    (match s.sessions sid with
      | none | some (.finished _) => s
      | some _ => s.finish sid (.raised message), [])

def Host.step (host : Host) (s : System) (a : Action) : System := (host.act s a).1

def Host.emit (host : Host) (s : System) (a : Action) : List Event := (host.act s a).2

end Auth
