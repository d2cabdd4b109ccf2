import TrainFactory.Auth.Sessions
import TrainFactory.Lib.LockOrder
import TrainFactory.Lib.Run

/-!
# Account flags under row locks

`set_account_flags` and `create_user` as programs whose statements interleave. A
`SELECT ... FOR UPDATE` takes the rows that satisfy its condition when it begins, and locks them one
after the other: it waits while another session has locked the next row, and keeps the locks that it
has. It reads the row as it is committed when it gets to it, and leaves out a row that no longer
satisfies the condition.
-/

namespace Auth.Accounts

open Lib

structure Account extends UserRow where
  id : Nat

instance : Keyed Account Nat := ⟨Account.id⟩

@[simp] theorem key_account (a : Account) : Keyed.key a = a.id := rfl

def Account.isActiveAdmin (a : Account) : Bool := a.isActive && a.isAdmin

inductive Call where
  | setAccountFlags (args : SetFlags)
  /-- `create_user`, with the ids that the new row gets. -/
  | createUser (args : Register) (isAdmin : Bool) (id : Nat)

inductive Result where
  | raised (message : String)
  | user (account : Account)

/-- The point at which a call is. -/
inductive Session where
  | ready (call : Call)
  /-- The name of a new user is not taken. -/
  | nameFree (args : Register) (isAdmin : Bool) (id : Nat)
  /-- Neither is the address. -/
  | accountFree (args : Register) (isAdmin : Bool) (id : Nat)
  /-- The active administrators that are locked, and the rows that are still to be locked. -/
  | lockingAdmins (args : SetFlags) (admins : List Account) (pending : List Nat)
  /-- The active administrators are locked, and the user is not one of them. -/
  | adminsLocked (args : SetFlags) (admins : List Account)
  /-- The row of the user is still to be locked. -/
  | lockingUser (args : SetFlags) (admins : List Account) (id : Nat)
  /-- The row is locked and changed, but not written yet. -/
  | writing (admins : List Account) (row row' : Account)
  /-- The row is committed, and is loaded again for the result. -/
  | loading (id : Nat)
  | finished (result : Result)

structure System where
  users : Table Account
  /-- The session that has locked a row. -/
  locks : Nat → Option SessionId
  sessions : SessionId → Option Session

/-- The state in which nothing runs. -/
def System.start (users : Table Account) : System := ⟨users, fun _ => none, fun _ => none⟩

/-! ## Statements -/

def System.goto (s : System) (sid : SessionId) (session : Session) : System :=
  { s with sessions := Function.update s.sessions sid (some session) }

def System.release (s : System) (sid : SessionId) : System :=
  { s with locks := fun id => if s.locks id = some sid then none else s.locks id }

def System.lock (s : System) (sid : SessionId) (id : Nat) : System :=
  { s with locks := Function.update s.locks id (some sid) }

/-- The call returns or raises, and its transaction ends. -/
def System.finish (s : System) (sid : SessionId) (result : Result) : System :=
  (s.release sid).goto sid (.finished result)

def System.isFree (s : System) (sid : SessionId) (id : Nat) : Bool :=
  s.locks id = none || s.locks id = some sid

/-- The committed row, if it satisfies the condition of the statement. -/
def System.reread (s : System) (id : Nat) (condition : Account → Bool) : Option Account :=
  (s.users.lookup id).filter condition

def isTaken (users : Table Account) (args : Register) : Bool :=
  users.rows.any fun u => u.userId = args.userId || u.username = args.username ||
    (args.email.isSome && u.email = args.email)

section Steps

variable (host : Host) (s : System) (sid : SessionId)

def System.decide (args : SetFlags) (admins : List Account) (row : Account) : System :=
  match args.inSession (admins.map Account.toUserRow) row.toUserRow with
  | .error message => s.finish sid (.raised message)
  | .ok (_, row') => s.goto sid (.writing admins row { row with toUserRow := row' })

/-- `SELECT ... WHERE is_active AND is_admin ORDER BY id FOR UPDATE` begins. -/
def System.selectAdmins (args : SetFlags) : System :=
  s.goto sid (.lockingAdmins args []
    ((orderedSelect s.users Account.isActiveAdmin).map Account.id))

/-- The next row of the active administrators, or the target among them. -/
def System.lockAdmin (args : SetFlags) (admins : List Account) (pending : List Nat) : System :=
  match pending with
  | [] =>
    match admins.find? fun admin => admin.userId = args.userId with
    | some row => s.decide sid args admins row
    | none => s.goto sid (.adminsLocked args admins)
  | id :: pending =>
    if s.isFree sid id then
      match s.reread id Account.isActiveAdmin with
      | some row => (s.lock sid id).goto sid (.lockingAdmins args (admins ++ [row]) pending)
      | none => s.goto sid (.lockingAdmins args admins pending)
    else s

/-- `SELECT ... WHERE user_id = ... FOR UPDATE` begins. -/
def System.selectUser (args : SetFlags) (admins : List Account) : System :=
  match s.users.rows.find? fun u => u.userId = args.userId with
  | some row => s.goto sid (.lockingUser args admins row.id)
  | none => s.finish sid (.raised "User not found")

def System.lockUser (args : SetFlags) (admins : List Account) (id : Nat) : System :=
  if s.isFree sid id then
    match s.reread id fun u => u.userId = args.userId with
    | some row => (s.lock sid id).decide sid args admins row
    | none => s.finish sid (.raised "User not found")
  else s

/-- `UPDATE` and `COMMIT`. -/
def System.write (row row' : Account) : System :=
  let users := s.users.update row.id
    (fun u => { u with toUserRow := flush row.toUserRow row'.toUserRow u.toUserRow })
  ({ s with users := users }.release sid).goto sid (.loading row.id)

/-- The row is loaded after the commit. -/
def System.load (id : Nat) : System :=
  match s.users.lookup id with
  | none => s.finish sid (.raised "Could not refresh instance")
  | some row => s.finish sid (.user row)

/-- The policy for passwords, and the first `SELECT` of `create_user`. -/
def System.beginCreate (args : Register) (isAdmin : Bool) (id : Nat) : System :=
  match validateNewPassword args.password with
  | .error message => s.finish sid (.raised message)
  | .ok _ =>
    if s.users.rows.any fun u => u.username = args.username then
      s.finish sid (.raised ("Username '" ++ args.username ++ "' already exists"))
    else s.goto sid (.nameFree args isAdmin id)

/-- `SELECT ... WHERE email = ...` of `create_user`. -/
def System.checkEmail (args : Register) (isAdmin : Bool) (id : Nat) : System :=
  if truthy args.email && s.users.rows.any fun u => u.email = args.email then
    s.finish sid (.raised ("Email '" ++ args.email.getD "" ++ "' already registered"))
  else s.goto sid (.accountFree args isAdmin id)

def newAccount (host : Host) (args : Register) (isAdmin : Bool) (id : Nat) : Account where
  toUserRow := { host.newUser args with isAdmin := isAdmin }
  id := id

def System.insertUser (args : Register) (isAdmin : Bool) (id : Nat) : System :=
  let taken := s.finish sid (.raised "Username or email already exists")
  if isTaken s.users args then taken
  else
    match s.users.insert (newAccount host args isAdmin id) with
    | none => taken
    | some users => ({ s with users := users }.release sid).goto sid (.loading id)

def System.enter (call : Call) : System :=
  match call with
  | .setAccountFlags args =>
    if args.mustLockAdminsFirst then s.selectAdmins sid args else s.selectUser sid args []
  | .createUser args isAdmin id => s.beginCreate sid args isAdmin id

/-- The next statement of a session, or the next row of a statement. -/
def System.advance : System :=
  match s.sessions sid with
  | none => s
  | some (.ready call) => s.enter sid call
  | some (.nameFree args isAdmin id) => s.checkEmail sid args isAdmin id
  | some (.accountFree args isAdmin id) => s.insertUser host sid args isAdmin id
  | some (.lockingAdmins args admins pending) => s.lockAdmin sid args admins pending
  | some (.adminsLocked args admins) => s.selectUser sid args admins
  | some (.lockingUser args admins id) => s.lockUser sid args admins id
  | some (.writing _ row row') => s.write sid row row'
  | some (.loading id) => s.load sid id
  | some (.finished _) => s

end Steps

/-! ## Runs -/

inductive Action where
  /-- A call, in a session of its own. -/
  | start (sid : SessionId) (call : Call)
  | advance (sid : SessionId)
  /-- A statement fails, and the session is rolled back. -/
  | fail (sid : SessionId) (message : String)

def step (host : Host) (s : System) : Action → System
  | .start sid call =>
    match s.sessions sid with
    | none => s.goto sid (.ready call)
    | some _ => s
  | .advance sid => s.advance host sid
  | .fail sid message =>
    match s.sessions sid with
    | none | some (.finished _) => s
    | some _ => s.finish sid (.raised message)

def Action.IsPlain : Action → Prop
  | .start _ (.setAccountFlags args) => args.bootstrap = false
  | _ => True

/-! ## Waiting -/

def Session.next? : Session → Option Nat
  | .lockingAdmins _ _ (id :: _) | .lockingUser _ _ id => some id
  | _ => none

/-- A session is about to lock a row that another one has locked. -/
def Waits (s : System) (i j : SessionId) : Prop :=
  i ≠ j ∧ ∃ session id, s.sessions i = some session ∧ session.next? = some id ∧
    s.locks id = some j

/-- The user from whose account a call takes a flag, from its first statement on and until the row
is locked as the target. -/
def Session.demotes? : Session → Option String
  | .lockingAdmins args _ _ | .adminsLocked args _ => some args.userId
  | .lockingUser args _ _ => if args.mustLockAdminsFirst then some args.userId else none
  | _ => none

def promoted? (s : System) : Action → Option String
  | .advance sid =>
    match s.sessions sid with
    | some (.writing _ row row') =>
      if !row.isActiveAdmin && row'.isActiveAdmin then some row.userId else none
    | some (.accountFree args isAdmin _) => if isAdmin then some args.userId else none
    | _ => none
  | _ => none

/-- No account becomes an active administrator while a call that is to take a flag from it has begun
to lock the active administrators and has not locked the account yet. -/
def IsClear (s : System) (a : Action) : Prop :=
  ∀ userId, promoted? s a = some userId → ∀ j session, s.sessions j = some session →
    session.demotes? ≠ some userId

def HasActiveAdmin (users : Table Account) : Prop := ∃ a ∈ users, a.isActiveAdmin = true

end Auth.Accounts
