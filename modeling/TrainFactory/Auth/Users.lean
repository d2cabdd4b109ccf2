import TrainFactory.Lib.Bytes
import TrainFactory.Lib.Text
import TrainFactory.Lib.Json
import TrainFactory.Lib.Table

/-!
# Users and access tokens

The rows of `users`, password hashes, access tokens, and the checks that the operations on users
make of the rows that they have loaded.
-/

namespace Auth

open Lib

/-- `UserDB`. -/
structure UserRow where
  userId : String
  username : String
  email : Option String
  hashedPassword : String
  isActive : Bool
  isAdmin : Bool
  /-- The version that a token has to carry. -/
  tokenVersion : Int

instance : Keyed UserRow String := ⟨UserRow.userId⟩

@[simp] theorem key_user (u : UserRow) : Keyed.key u = u.userId := rfl

/-- The libraries for passwords and tokens, and the settings. -/
structure Host where
  /-- `PasswordHasher.verify(hash, password)`; an exception is a mismatch. -/
  argon2Verify : String → String → Bool
  /-- `PasswordHasher.check_needs_rehash(hash)`. -/
  checkNeedsRehash : String → Bool
  /-- `PasswordHasher.hash(password)`, with the salt it draws. -/
  argon2Hash : String → String → String
  /-- `bcrypt.checkpw(password, hash)`; an exception is a mismatch. -/
  bcryptCheckpw : Bytes → String → Bool
  /-- The characters that `\d` matches. -/
  isDecimal : Char → Bool
  /-- `value.strip().lower()`. -/
  stripLower : String → String
  /-- `settings.default_admin_username or ""`. -/
  defaultAdminUsername : String
  /-- `settings.jwt_access_token_expire_minutes`, in seconds. -/
  expireSeconds : Int
  /-- `jwt.encode`. -/
  encode : Json → String
  /-- `jwt.decode` at a time; `none` where it raises. -/
  decode : Int → String → Option Json
  /-- A token decodes to the claims that were encoded, if at all. -/
  decode_encode : ∀ now claims claims', decode now (encode claims) = some claims' → claims' = claims

variable (host : Host)

/-! ## Passwords -/

def argon2idPrefix : String := "$argon2id$"

def bcryptPrefixes : List String := ["$2a$", "$2b$", "$2y$"]

def Host.hashPassword (salt password : String) : String := host.argon2Hash salt password

def Host.verifyPassword (plain hashed : String) : Bool :=
  if startsWith hashed argon2idPrefix then host.argon2Verify hashed plain
  else if bcryptPrefixes.any fun scheme => startsWith hashed scheme then
    if (utf8 plain).length > 72 then false else host.bcryptCheckpw (utf8 plain) hashed
  else false

/-- `[./A-Za-z0-9]`. -/
def isBcryptChar (c : Char) : Bool := c = '.' || c = '/' || c.isAlphanum

def Host.isBcryptHash (hashed : String) : Bool :=
  match hashed.toList with
  | '$' :: '2' :: v :: '$' :: d :: d' :: '$' :: rest =>
    (v = 'a' || v = 'b' || v = 'y') && host.isDecimal d && host.isDecimal d' &&
      rest.length = 53 && rest.all isBcryptChar
  | _ => false

def Host.passwordNeedsRehash (hashed : String) : Bool :=
  if host.isBcryptHash hashed then true
  else if startsWith hashed argon2idPrefix then host.checkNeedsRehash hashed
  else false

def validateNewPassword (password : String) : Except String Unit :=
  if password.length < 10 then .error "Password must be at least 10 characters"
  else if password.length > 128 then .error "Password must be at most 128 characters"
  else .ok ()

/-! ## Tokens -/

def Host.claims (now : Int) (user : UserRow) : Json :=
  .obj [("sub", .str user.userId), ("username", .str user.username), ("ver", .int user.tokenVersion),
    ("exp", .int (now + host.expireSeconds)), ("iat", .int now)]

def Host.createAccessToken (now : Int) (user : UserRow) : String := host.encode (host.claims now user)

structure Identity where
  userId : String
  username : String
  isAdmin : Bool
  isActive : Bool
  deriving DecidableEq

def readClaims (claims : Json) : Option (String × Int) :=
  match claims.get? "sub", claims.get? "username", claims.get? "ver" with
  | some (.str userId), some (.str username), some (.int version) =>
    if userId = "" ∨ username = "" then none else some (userId, version)
  | _, _, _ => none

/-- `resolve_current_user`; `none` where it raises. -/
def Host.resolveCurrentUser (users : Table UserRow) (now : Int) (token : String) :
    Option Identity := do
  let claims ← host.decode now token
  let (userId, version) ← readClaims claims
  let user ← users.lookup userId
  if ¬ user.isActive ∨ user.tokenVersion ≠ version then none
  else some ⟨user.userId, user.username, user.isAdmin, user.isActive⟩

/-! ## What an operation does with the row that it has locked -/

/-- What a write is for. -/
inductive Kind where
  | rehash
  | flags
  | passwordChange
  | passwordReset
  | revocation
  deriving DecidableEq

/-- `authenticate`, of the row with the name. -/
def Host.checkLogin (password : String) (user : UserRow) : Except String Unit :=
  if ¬ host.verifyPassword password user.hashedPassword then .error "Invalid username or password"
  else if ¬ user.isActive then .error "Account is disabled"
  else .ok ()

def Host.rehashed (salt password : String) (user : UserRow) : UserRow :=
  { user with hashedPassword := host.hashPassword salt password }

def Host.withPassword (salt password : String) (user : UserRow) : UserRow :=
  { user with
    hashedPassword := host.hashPassword salt password
    tokenVersion := user.tokenVersion + 1 }

def Host.changePasswordInSession (salt oldPassword newPassword : String) (user : UserRow) :
    Except String (Kind × UserRow) := do
  validateNewPassword newPassword
  if ¬ host.verifyPassword oldPassword user.hashedPassword then
    .error "Current password is incorrect"
  else .ok (.passwordChange, host.withPassword salt newPassword user)

def Host.resetPasswordInSession (salt newPassword : String) (user : UserRow) :
    Except String (Kind × UserRow) :=
  .ok (.passwordReset, host.withPassword salt newPassword user)

def revokeInSession (user : UserRow) : Except String (Kind × UserRow) :=
  .ok (.revocation, { user with tokenVersion := user.tokenVersion + 1 })

structure SetFlags where
  userId : String
  isActive : Option Bool
  isAdmin : Option Bool
  actingUserId : Option String
  bootstrap : Bool

def SetFlags.mustLockAdminsFirst (args : SetFlags) : Bool :=
  !args.bootstrap && (args.isActive = some false || args.isAdmin = some false)

def SetFlags.removesActiveAdmin (args : SetFlags) (user : UserRow) : Bool :=
  user.isActive && user.isAdmin &&
    !(args.isActive.getD user.isActive && args.isAdmin.getD user.isAdmin)

def SetFlags.columns (args : SetFlags) (user : UserRow) : UserRow :=
  { user with
    isActive := args.isActive.getD user.isActive
    isAdmin := args.isAdmin.getD user.isAdmin
    tokenVersion :=
      if user.isActive ∧ ¬ args.isActive.getD user.isActive then user.tokenVersion + 1
      else user.tokenVersion }

def SetFlags.inSession (args : SetFlags) (admins : List UserRow) (user : UserRow) :
    Except String (Kind × UserRow) :=
  if ¬ args.bootstrap ∧ args.actingUserId = some args.userId ∧ args.isActive = some false then
    .error "Account self-disable is not allowed"
  else if ¬ args.bootstrap ∧ args.removesActiveAdmin user ∧
      ¬ (admins.any fun admin => admin.userId ≠ args.userId) then
    .error "Cannot change the last active administrator"
  else .ok (.flags, args.columns user)

end Auth
