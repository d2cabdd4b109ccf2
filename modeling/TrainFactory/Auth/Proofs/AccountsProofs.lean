import TrainFactory.Auth.Accounts
import TrainFactory.Auth.Proofs.TokensProofs

/-!
# Proofs: an active administrator remains

What a session holds and what it knows of its rows is one invariant of every run, with the
administrator that always remains. Sessions that only lock the active administrators take them in
the order of their ids, so they do not wait in a cycle. A call that then locks its target takes it
out of that order: this is harmless as long as the target does not become an active administrator in
the meantime, and can close a cycle otherwise.
-/

namespace Auth.Accounts

open Lib Relation

variable {host : Host} {clear : Prop}

/-! ## The checks of the locked row -/

/-- What a session may write after the checks: an active administrator stays one, or another one is
locked. -/
theorem inSession_ok {args : SetFlags} {admins : List UserRow} {user user' : UserRow} {kind : Kind}
    (hplain : args.bootstrap = false)
    (h : args.inSession admins user = .ok (kind, user')) :
    user' = args.columns user ∧
      (args.removesActiveAdmin user = true → ∃ a ∈ admins, a.userId ≠ args.userId) := by
  unfold SetFlags.inSession at h
  split at h
  · cases h
  split at h
  · cases h
  rename_i hother
  simp only [Except.ok.injEq, Prod.mk.injEq] at h
  refine ⟨h.2.symm, fun hremoves => ?_⟩
  by_contra hnone
  apply hother
  simp only [hplain, hremoves, true_and]
  simpa using hnone

theorem removesActiveAdmin_of {args : SetFlags} {user : UserRow}
    (hadmin : (user.isActive && user.isAdmin) = true)
    (hnot : ((args.columns user).isActive && (args.columns user).isAdmin) = false) :
    args.removesActiveAdmin user = true := by
  simp only [SetFlags.columns] at hnot
  simp [SetFlags.removesActiveAdmin, hadmin, hnot]

theorem ite_ne_self {α : Type} [DecidableEq α] (a b : α) : (if a ≠ b then a else b) = a := by
  by_cases h : a = b <;> simp [h]

theorem flush_self (args : SetFlags) (user : UserRow) :
    flush user (args.columns user) user = args.columns user := by
  simp only [flush, ite_ne_self]
  rfl

/-! ## The invariant -/

def Session.held : Session → List Nat
  | .lockingAdmins _ admins _ | .adminsLocked _ admins | .lockingUser _ admins _ =>
    admins.map Account.id
  | .writing admins row _ => row.id :: admins.map Account.id
  | _ => []

/-- The locked rows are committed as they were read, and are active administrators. -/
def AreAdmins (users : Table Account) (admins : List Account) : Prop :=
  ∀ a ∈ admins, a ∈ users ∧ a.isActiveAdmin = true

/-- The user is not an active administrator, or its row is one of these. -/
def OnlyAmong (users : Table Account) (userId : String) (ids : List Nat) : Prop :=
  ∀ a ∈ users, a.userId = userId → a.isActiveAdmin = true → a.id ∈ ids

/-- What a session knows of its call and of the rows that it has locked; in a `clear` run also that
its target has not become an active administrator behind its back. -/
def SessionOk (clear : Prop) (users : Table Account) : Session → Prop
  | .ready (.setAccountFlags args) => args.bootstrap = false
  | .lockingAdmins args admins pending =>
    args.bootstrap = false ∧ args.mustLockAdminsFirst = true ∧ AreAdmins users admins ∧
      (admins.map Account.id ++ pending).Pairwise (· < ·) ∧
      (clear → OnlyAmong users args.userId (admins.map Account.id ++ pending))
  | .adminsLocked args admins =>
    args.bootstrap = false ∧ args.mustLockAdminsFirst = true ∧ AreAdmins users admins ∧
      (clear → OnlyAmong users args.userId [])
  | .lockingUser args admins id =>
    args.bootstrap = false ∧ (admins ≠ [] → args.mustLockAdminsFirst = true) ∧
      AreAdmins users admins ∧ (∃ a ∈ users, a.id = id ∧ a.userId = args.userId) ∧
      (clear → args.mustLockAdminsFirst = true → OnlyAmong users args.userId [])
  | .writing admins row row' =>
    row ∈ users ∧ AreAdmins users admins ∧
      (∃ args : SetFlags, row' = { row with toUserRow := args.columns row.toUserRow }) ∧
      (row.isActiveAdmin = true → row'.isActiveAdmin = false →
        ∃ a ∈ admins, a.userId ≠ row.userId)
  | _ => True

structure Inv (clear : Prop) (s : System) : Prop where
  /-- The locks are those of the rows that the sessions hold. -/
  held : ∀ id sid, s.locks id = some sid ↔
    ∃ session, s.sessions sid = some session ∧ id ∈ session.held
  ok : ∀ sid session, s.sessions sid = some session → SessionOk clear s.users session
  admin : HasActiveAdmin s.users

theorem inv_start {users : Table Account} (h : HasActiveAdmin users) :
    Inv clear (System.start users) :=
  ⟨by simp [System.start], by simp [System.start], h⟩

def WasAdmin (users : Table Account) (a' : Account) : Prop :=
  ∃ a ∈ users, a.id = a'.id ∧ a.userId = a'.userId ∧ a.isActiveAdmin = true

/-- What a session knows stays true as long as its locked rows and the ids of all rows stay. -/
theorem SessionOk.mono {users users' : Table Account} {session : Session}
    (h : SessionOk clear users session)
    (hheld : ∀ a ∈ users, a.id ∈ session.held → a ∈ users')
    (hids : ∀ a ∈ users, ∃ a' ∈ users', a'.id = a.id ∧ a'.userId = a.userId)
    (hclear : clear → ∀ a' ∈ users', a'.isActiveAdmin = true →
      session.demotes? = some a'.userId → WasAdmin users a') :
    SessionOk clear users' session := by
  have hadmins : ∀ {admins : List Account}, AreAdmins users admins →
      (∀ a ∈ admins, a.id ∈ session.held) → AreAdmins users' admins :=
    fun h hin a ha => ⟨hheld a (h a ha).1 (hin a ha), (h a ha).2⟩
  have hamong : clear → ∀ {userId : String} {ids : List Nat}, session.demotes? = some userId →
      OnlyAmong users userId ids → OnlyAmong users' userId ids := by
    rintro hc userId ids hdemotes h a' ha' rfl hadmin
    obtain ⟨a, ha, hid, huser, hwas⟩ := hclear hc a' ha' hadmin hdemotes
    exact hid ▸ h a ha huser hwas
  cases session with
  | lockingAdmins args admins pending =>
    obtain ⟨hplain, hlock, h, hsorted, honly⟩ := h
    exact ⟨hplain, hlock, hadmins h fun a => List.mem_map_of_mem, hsorted,
      fun hc => hamong hc rfl (honly hc)⟩
  | adminsLocked args admins =>
    obtain ⟨hplain, hlock, h, honly⟩ := h
    exact ⟨hplain, hlock, hadmins h fun a => List.mem_map_of_mem,
      fun hc => hamong hc rfl (honly hc)⟩
  | lockingUser args admins id =>
    obtain ⟨hplain, hlock, h, ⟨a, ha, rfl, huser⟩, honly⟩ := h
    obtain ⟨a', ha', hid, huser'⟩ := hids a ha
    refine ⟨hplain, hlock, hadmins h fun a => List.mem_map_of_mem,
      ⟨a', ha', hid, huser'.trans huser⟩, fun hc hfirst => ?_⟩
    exact hamong hc (by simp [Session.demotes?, hfirst]) (honly hc hfirst)
  | writing admins row row' =>
    obtain ⟨hrow, h, hargs, hother⟩ := h
    refine ⟨hheld row hrow (List.mem_cons_self ..), ?_, hargs, hother⟩
    exact hadmins h fun a ha => List.mem_cons_of_mem _ (List.mem_map_of_mem ha)
  | ready call =>
    cases call with
    | setAccountFlags args => exact h
    | createUser args isAdmin id => trivial
  | nameFree | accountFree | loading | finished => trivial

/-- What the others have locked stays as it is. -/
structure KeepsOthers (clear : Prop) (s : System) (sid : SessionId) (users : Table Account) :
    Prop where
  ok : ∀ j session, j ≠ sid → s.sessions j = some session → SessionOk clear users session
  admin : HasActiveAdmin users

theorem Inv.move {s : System} (hs : Inv clear s) {sid : SessionId} {users : Table Account}
    {locks : Nat → Option SessionId} {session : Session} (hothers : KeepsOthers clear s sid users)
    (hlocks : ∀ id j, locks id = some j ↔
      if j = sid then id ∈ session.held else s.locks id = some j)
    (hok : SessionOk clear users session) :
    Inv clear (System.goto ⟨users, locks, s.sessions⟩ sid session) := by
  refine ⟨fun id j => ?_, fun j session' hj => ?_, hothers.admin⟩
  · change locks id = some j ↔ _
    rw [hlocks]
    by_cases hjs : j = sid
    · subst hjs
      simp [System.goto]
    · simp only [hjs, if_false, System.goto, Function.update_of_ne hjs]
      exact hs.held id j
  · change SessionOk clear users session'
    by_cases hjs : j = sid
    · subst hjs
      simp only [System.goto, Function.update_self, Option.some.injEq] at hj
      exact hj ▸ hok
    · simp only [System.goto, Function.update_of_ne hjs] at hj
      exact hothers.ok j session' hjs hj

theorem Inv.keepsOthers {s : System} (hs : Inv clear s) (sid : SessionId) :
    KeepsOthers clear s sid s.users :=
  ⟨fun j session _ hj => hs.ok j session hj, hs.admin⟩

theorem Inv.locks_same {s : System} (hs : Inv clear s) {sid : SessionId} {old session : Session}
    (hold : s.sessions sid = some old) (hheld : session.held = old.held) (id : Nat)
    (j : SessionId) :
    s.locks id = some j ↔ if j = sid then id ∈ session.held else s.locks id = some j := by
  by_cases hjs : j = sid
  · subst hjs
    rw [if_pos rfl, hs.held, hheld]
    simp [hold]
  · simp [hjs]

theorem locks_release {s : System} {sid : SessionId} {session : Session}
    (hheld : session.held = []) (id : Nat) (j : SessionId) :
    (s.release sid).locks id = some j ↔
      if j = sid then id ∈ session.held else s.locks id = some j := by
  simp only [System.release, hheld, List.not_mem_nil]
  by_cases hjs : j = sid
  · subst hjs
    by_cases hl : s.locks id = some j <;> simp [hl]
  · by_cases hl : s.locks id = some sid
    · simp [hl, hjs, Ne.symm hjs]
    · simp [hl, hjs]

theorem Inv.locks_lock {s : System} (hs : Inv clear s) {sid : SessionId} {old session : Session}
    {row : Nat} (hold : s.sessions sid = some old) (hfree : s.isFree sid row = true)
    (hheld : ∀ id, id ∈ session.held ↔ id = row ∨ id ∈ old.held) (id : Nat) (j : SessionId) :
    (s.lock sid row).locks id = some j ↔
      if j = sid then id ∈ session.held else s.locks id = some j := by
  have hsid : ∀ id, s.locks id = some sid ↔ id ∈ old.held := fun id => by
    rw [hs.held]
    simp [hold]
  simp only [System.isFree, Bool.or_eq_true, decide_eq_true_eq] at hfree
  simp only [System.lock]
  by_cases hid : id = row
  · subst hid
    rw [Function.update_self]
    by_cases hjs : j = sid
    · simp [hjs, hheld]
    · rcases hfree with hfree | hfree <;> simp [hjs, Ne.symm hjs, hfree]
  · rw [Function.update_of_ne hid]
    by_cases hjs : j = sid
    · simp [hjs, hheld, hid, hsid]
    · simp [hjs]

/-! ## One step -/

theorem pairwise_orderedSelect (users : Table Account) (p : Account → Bool) :
    ((orderedSelect users p).map Account.id).Pairwise (· < ·) := by
  have h : Locking.Ascends (fun _ : Unit => 0) 0 1
      (Locking.lockWhere () users p : Locking (Unit × Nat) Unit (List Account)) :=
    Locking.Ascends.lockWhere
  have hpairs := h.pairwise
  rw [Locking.lockWhere, List.pairwise_map] at hpairs
  rw [List.pairwise_map]
  refine hpairs.imp fun {a b} hab => ?_
  rcases hab with hab | hab
  · exact absurd hab (lt_irrefl _)
  · exact hab.2

theorem reread_eq_some {s : System} {id : Nat} {condition : Account → Bool} {row : Account}
    (h : s.reread id condition = some row) :
    row ∈ s.users ∧ row.id = id ∧ condition row = true := by
  rw [System.reread, Option.filter_eq_some_iff] at h
  obtain ⟨hlookup, hcondition⟩ := h
  obtain ⟨hmem, hid⟩ := Table.lookup_eq_some.mp hlookup
  exact ⟨hmem, hid, hcondition⟩

theorem mem_write {s : System} {sid : SessionId} {row row' a : Account} (hrow : row ∈ s.users)
    (hargs : ∃ args : SetFlags, row' = { row with toUserRow := args.columns row.toUserRow }) :
    a ∈ (s.write sid row row').users ↔ a = row' ∨ a ∈ s.users ∧ a.id ≠ row.id := by
  obtain ⟨args, rfl⟩ := hargs
  simp only [System.write, System.goto, System.release, Table.update, Table.mem_updateWhere]
  constructor
  · rintro ⟨u, hu, rfl⟩
    by_cases hid : u.id = row.id
    · obtain rfl := Table.eq_of_key hu hrow hid
      left
      simp [flush_self]
    · right
      simp [hid, hu]
  · rintro (rfl | ⟨ha, hid⟩)
    · exact ⟨row, hrow, by simp [flush_self]⟩
    · exact ⟨a, ha, by simp [hid]⟩

theorem reread_of_mem {s : System} {condition : Account → Bool} {a : Account} (ha : a ∈ s.users)
    (hcondition : condition a = true) : s.reread a.id condition = some a := by
  have hlookup : s.users.lookup a.id = some a := Table.lookup_of_mem ha
  simp [System.reread, hlookup, hcondition]

section Steps

variable {s : System} {sid : SessionId} {old : Session} (hs : Inv clear s)

include hs

theorem Inv.goto {session : Session} (hold : s.sessions sid = some old)
    (hheld : session.held = old.held) (hok : SessionOk clear s.users session) :
    Inv clear (s.goto sid session) :=
  hs.move (hs.keepsOthers sid) (hs.locks_same hold hheld) hok

theorem Inv.finish (result : Result) : Inv clear (s.finish sid result) :=
  hs.move (hs.keepsOthers sid) (locks_release rfl) trivial

theorem Inv.decide {args : SetFlags} {admins : List Account} {row : Account}
    {locks : Nat → Option SessionId} (hplain : args.bootstrap = false) (hrow : row ∈ s.users)
    (huser : row.userId = args.userId) (hadmins : AreAdmins s.users admins)
    (hlocks : ∀ id j, locks id = some j ↔
      if j = sid then id ∈ row.id :: admins.map Account.id else s.locks id = some j) :
    Inv clear (System.decide ⟨s.users, locks, s.sessions⟩ sid args admins row) := by
  unfold System.decide
  cases hdecide : args.inSession (admins.map Account.toUserRow) row.toUserRow with
  | error message =>
    refine hs.move (hs.keepsOthers sid) (fun id j => ?_) trivial
    have hj := hlocks id j
    have hsid := hlocks id sid
    rw [if_pos rfl] at hsid
    by_cases hjs : j = sid
    · subst hjs
      by_cases hl : locks id = some j <;> simp [hl, Session.held]
    · rw [if_neg hjs] at hj ⊢
      rw [← hj]
      by_cases hl : locks id = some sid
      · simp [hl, Ne.symm hjs]
      · simp [hl]
  | ok result =>
    obtain ⟨kind, user'⟩ := result
    obtain ⟨rfl, hremoves⟩ := inSession_ok hplain hdecide
    refine hs.move (hs.keepsOthers sid) (fun id j => ?_) ⟨hrow, hadmins, ⟨args, rfl⟩, ?_⟩
    · exact hlocks id j
    · intro hadmin hnot
      obtain ⟨u, hu, hother⟩ := hremoves (removesActiveAdmin_of hadmin hnot)
      obtain ⟨a, ha, rfl⟩ := List.mem_map.mp hu
      exact ⟨a, ha, by rw [huser]; exact hother⟩

theorem Inv.selectAdmins {args : SetFlags}
    (hold : s.sessions sid = some (.ready (.setAccountFlags args)))
    (hlock : args.mustLockAdminsFirst = true) : Inv clear (s.selectAdmins sid args) := by
  refine hs.goto hold rfl ⟨hs.ok sid _ hold, hlock, by simp [AreAdmins], ?_, fun _ => ?_⟩
  · exact pairwise_orderedSelect s.users _
  · intro a ha _ hadmin
    exact List.mem_map_of_mem (mem_orderedSelect.mpr ⟨ha, hadmin⟩)

theorem Inv.lockAdmin {args : SetFlags} {admins : List Account} {pending : List Nat}
    (hold : s.sessions sid = some (.lockingAdmins args admins pending)) :
    Inv clear (s.lockAdmin sid args admins pending) := by
  obtain ⟨hplain, hlock, hadmins, hsorted, honly⟩ := hs.ok sid _ hold
  cases pending with
  | nil =>
    simp only [System.lockAdmin]
    split
    next row hrow =>
      have hmem := List.mem_of_find?_eq_some hrow
      have huser : row.userId = args.userId := by simpa using List.find?_some hrow
      refine hs.decide hplain (hadmins row hmem).1 huser hadmins fun id j => ?_
      rw [hs.locks_same hold rfl]
      simp only [Session.held]
      by_cases hjs : j = sid
      · simp only [hjs, if_true, List.mem_cons]
        refine ⟨Or.inr, ?_⟩
        rintro (rfl | h)
        · exact List.mem_map_of_mem hmem
        · exact h
      · simp [hjs]
    next hnone =>
      refine hs.goto hold rfl ⟨hplain, hlock, hadmins, fun hc a ha huser hadmin => ?_⟩
      have hid := honly hc a ha huser hadmin
      rw [List.append_nil] at hid
      obtain ⟨b, hb, hbid⟩ := List.mem_map.mp hid
      obtain rfl := Table.eq_of_key (hadmins b hb).1 ha hbid
      have := List.find?_eq_none.mp hnone b hb
      simp [huser] at this
  | cons id pending =>
    simp only [System.lockAdmin]
    split
    next hfree =>
      split
      next row hrow =>
        obtain ⟨hmem, rfl, hadmin⟩ := reread_eq_some hrow
        refine hs.move (hs.keepsOthers sid) (hs.locks_lock hold hfree fun id => ?_)
          ⟨hplain, hlock, ?_, ?_, fun hc => ?_⟩
        · simp [Session.held, or_comm]
        · intro a ha
          rcases List.mem_append.mp ha with ha | ha
          · exact hadmins a ha
          · obtain rfl := List.mem_singleton.mp ha
            exact ⟨hmem, hadmin⟩
        · simpa using hsorted
        · simpa using honly hc
      next hnone =>
        refine hs.goto hold rfl ⟨hplain, hlock, hadmins, ?_, fun hc a ha huser hadmin => ?_⟩
        · exact hsorted.sublist (List.Sublist.append_left (List.sublist_cons_self _ _) _)
        · -- the row that is left out is not an active administrator
          have hid := honly hc a ha huser hadmin
          rw [List.mem_append, List.mem_cons] at hid
          rcases hid with hid | rfl | hid
          · exact List.mem_append_left _ hid
          · rw [reread_of_mem ha hadmin] at hnone
            cases hnone
          · exact List.mem_append_right _ hid
    next => exact hs

theorem Inv.selectUser {args : SetFlags} {admins : List Account}
    (hold : s.sessions sid = some old) (hheld : old.held = admins.map Account.id)
    (hplain : args.bootstrap = false)
    (hlock : admins ≠ [] → args.mustLockAdminsFirst = true) (hadmins : AreAdmins s.users admins)
    (honly : clear → args.mustLockAdminsFirst = true → OnlyAmong s.users args.userId []) :
    Inv clear (s.selectUser sid args admins) := by
  unfold System.selectUser
  split
  next row hrow =>
    refine hs.goto hold hheld.symm ⟨hplain, hlock, hadmins, ⟨row, ?_, rfl, ?_⟩, honly⟩
    · exact List.mem_of_find?_eq_some hrow
    · simpa using List.find?_some hrow
  next => exact hs.finish _

theorem Inv.lockUser {args : SetFlags} {admins : List Account} {id : Nat}
    (hold : s.sessions sid = some (.lockingUser args admins id)) :
    Inv clear (s.lockUser sid args admins id) := by
  obtain ⟨hplain, hlock, hadmins, -⟩ := hs.ok sid _ hold
  unfold System.lockUser
  split
  next hfree =>
    split
    next row hrow =>
      obtain ⟨hmem, rfl, huser⟩ := reread_eq_some hrow
      refine hs.decide hplain hmem (by simpa using huser) hadmins ?_
      exact @Inv.locks_lock clear s hs sid _ (.writing admins row row) row.id hold hfree
        (by simp [Session.held])
    next => exact hs.finish _
  next => exact hs

theorem Inv.write {admins : List Account} {row row' : Account}
    (hold : s.sessions sid = some (.writing admins row row'))
    (hclear : clear → IsClear s (.advance sid)) : Inv clear (s.write sid row row') := by
  obtain ⟨hrow, hadmins, hargs, hother⟩ := hs.ok sid _ hold
  have hmem : ∀ a, a ∈ (s.write sid row row').users ↔ a = row' ∨ a ∈ s.users ∧ a.id ≠ row.id :=
    fun a => mem_write hrow hargs
  have hid : row'.id = row.id ∧ row'.userId = row.userId := by
    obtain ⟨args, rfl⟩ := hargs
    exact ⟨rfl, rfl⟩
  refine hs.move ⟨fun j session hjs hj => ?_, ?_⟩ (locks_release rfl) trivial
  · refine (hs.ok j session hj).mono (fun a ha hheld => ?_) (fun a ha => ?_)
      fun hc a' ha' hadmin hdemotes => ?_
    · refine (hmem a).mpr (Or.inr ⟨ha, fun hrowid => hjs ?_⟩)
      -- the row is locked by one session only
      have hj' := (hs.held a.id j).mpr ⟨session, hj, hheld⟩
      have hsid := (hs.held row.id sid).mpr ⟨_, hold, List.mem_cons_self ..⟩
      rw [hrowid, hsid] at hj'
      exact (Option.some.inj hj').symm
    · by_cases hrowid : a.id = row.id
      · obtain rfl := Table.eq_of_key ha hrow hrowid
        exact ⟨row', (hmem row').mpr (Or.inl rfl), hid⟩
      · exact ⟨a, (hmem a).mpr (Or.inr ⟨ha, hrowid⟩), rfl, rfl⟩
    · rcases (hmem a').mp ha' with rfl | ⟨ha', -⟩
      · refine ⟨row, hrow, hid.1.symm, hid.2.symm, ?_⟩
        by_contra hnot
        have hpromoted : promoted? s (.advance sid) = some row.userId := by
          simp [promoted?, hold, hnot, hadmin]
        exact hclear hc _ hpromoted j session hj (hid.2 ▸ hdemotes)
      · exact ⟨a', ha', rfl, rfl, hadmin⟩
  · obtain ⟨a, ha, hadmin⟩ := hs.admin
    by_cases hrowid : a.id = row.id
    · obtain rfl := Table.eq_of_key ha hrow hrowid
      cases hadmin' : row'.isActiveAdmin with
      | true => exact ⟨row', (hmem row').mpr (Or.inl rfl), hadmin'⟩
      | false =>
        obtain ⟨b, hb, hne⟩ := hother hadmin hadmin'
        refine ⟨b, (hmem b).mpr (Or.inr ⟨(hadmins b hb).1, fun h => hne ?_⟩), (hadmins b hb).2⟩
        rw [Table.eq_of_key (hadmins b hb).1 hrow h]
    · exact ⟨a, (hmem a).mpr (Or.inr ⟨ha, hrowid⟩), hadmin⟩

theorem Inv.insertUser (host : Host) {args : Register} {isAdmin : Bool} {id : Nat}
    (hold : s.sessions sid = some (.accountFree args isAdmin id))
    (hclear : clear → IsClear s (.advance sid)) :
    Inv clear (s.insertUser host sid args isAdmin id) := by
  unfold System.insertUser
  dsimp only
  split
  · exact hs.finish _
  split
  · exact hs.finish _
  next users hinsert =>
    have hkeep : ∀ a ∈ s.users, a ∈ users := fun a ha =>
      (Table.mem_insert hinsert).mpr (Or.inl ha)
    refine hs.move ⟨fun j session _ hj => ?_, ?_⟩ (locks_release rfl) trivial
    · refine (hs.ok j session hj).mono (fun a ha _ => hkeep a ha)
        (fun a ha => ⟨a, hkeep a ha, rfl, rfl⟩) fun hc a' ha' hadmin hdemotes => ?_
      rcases (Table.mem_insert hinsert).mp ha' with ha' | rfl
      · exact ⟨a', ha', rfl, rfl, hadmin⟩
      · have hpromoted : promoted? s (.advance sid) = some args.userId := by
          have : isAdmin = true := hadmin
          simp [promoted?, hold, this]
        exact absurd hdemotes (hclear hc _ hpromoted j session hj)
    · obtain ⟨a, ha, hadmin⟩ := hs.admin
      exact ⟨a, hkeep a ha, hadmin⟩

theorem Inv.advance (host : Host) (hclear : clear → IsClear s (.advance sid)) :
    Inv clear (s.advance host sid) := by
  cases hold : s.sessions sid with
  | none => simpa only [System.advance, hold] using hs
  | some session =>
    have hok := hs.ok sid _ hold
    cases session with
    | ready call =>
      simp only [System.advance, hold, System.enter]
      cases call with
      | setAccountFlags args =>
        dsimp only
        split
        next hlock => exact hs.selectAdmins hold hlock
        next hlock =>
          exact hs.selectUser hold rfl hok (fun h => absurd rfl h) (by simp [AreAdmins])
            fun _ h => absurd h hlock
      | createUser args isAdmin id =>
        simp only [System.beginCreate]
        split
        · exact hs.finish _
        split
        · exact hs.finish _
        · exact hs.goto hold rfl trivial
    | nameFree args isAdmin id =>
      simp only [System.advance, hold, System.checkEmail]
      split
      · exact hs.finish _
      · exact hs.goto hold rfl trivial
    | accountFree args isAdmin id =>
      simp only [System.advance, hold]
      exact hs.insertUser host hold hclear
    | lockingAdmins args admins pending =>
      simp only [System.advance, hold]
      exact hs.lockAdmin hold
    | adminsLocked args admins =>
      simp only [System.advance, hold]
      obtain ⟨hplain, hlock, hadmins, honly⟩ := hok
      exact hs.selectUser hold rfl hplain (fun _ => hlock) hadmins fun hc _ => honly hc
    | lockingUser args admins id =>
      simp only [System.advance, hold]
      exact hs.lockUser hold
    | writing admins row row' =>
      simp only [System.advance, hold]
      exact hs.write hold hclear
    | loading id =>
      simp only [System.advance, hold, System.load]
      split
      · exact hs.finish _
      · exact hs.finish _
    | finished result => simpa only [System.advance, hold] using hs

theorem Inv.step (host : Host) {a : Action} (ha : a.IsPlain) (hclear : clear → IsClear s a) :
    Inv clear (step host s a) := by
  cases a with
  | start sid call =>
    simp only [Accounts.step]
    split
    next hnone =>
      have hempty : ∀ id, s.locks id ≠ some sid := fun id hid => by
        obtain ⟨session, hsession, -⟩ := (hs.held id sid).mp hid
        rw [hnone] at hsession
        cases hsession
      refine hs.move (hs.keepsOthers sid) (fun id j => ?_) ?_
      · by_cases hjs : j = sid
        · simp [hjs, hempty, Session.held]
        · simp [hjs]
      · cases call with
        | setAccountFlags args => exact ha
        | createUser => trivial
    next => exact hs
  | advance sid => exact hs.advance host hclear
  | fail sid message =>
    simp only [Accounts.step]
    split
    · exact hs
    · exact hs
    · exact hs.finish _

end Steps

/-! ## Waiting -/

section Waiting

variable {s : System} {i j : SessionId} (hs : Inv True s)

include hs

theorem Inv.admin_of_held {session : Session} {id next : Nat} (hj : s.sessions j = some session)
    (hnext : session.next? = some next) (hid : id ∈ session.held) :
    ∃ a ∈ s.users, a.id = id ∧ a.isActiveAdmin = true := by
  have hok := hs.ok j session hj
  cases session with
  | lockingAdmins args admins pending =>
    obtain ⟨a, ha, rfl⟩ := List.mem_map.mp hid
    exact ⟨a, (hok.2.2.1 a ha).1, rfl, (hok.2.2.1 a ha).2⟩
  | lockingUser args admins row =>
    obtain ⟨a, ha, rfl⟩ := List.mem_map.mp hid
    exact ⟨a, (hok.2.2.1 a ha).1, rfl, (hok.2.2.1 a ha).2⟩
  | ready | nameFree | accountFree | adminsLocked | writing | loading | finished => cases hnext

theorem Inv.locking_of_cycle (hi : TransGen (Waits s) i i) :
    ∃ args admins id pending,
      s.sessions i = some (.lockingAdmins args admins (id :: pending)) := by
  obtain ⟨j, hij, hback⟩ := TransGen.head'_iff.mp hi
  obtain ⟨h, -, hhi⟩ := TransGen.tail'_iff.mp hi
  obtain ⟨k, hjk, -⟩ := TransGen.head'_iff.mp (TransGen.tail' hback hij)
  obtain ⟨-, session, id, hsession, hnext, hlocked⟩ := hij
  obtain ⟨-, sessionJ, idJ, hsessionJ, hnextJ, -⟩ := hjk
  obtain ⟨-, _, idH, -, -, hlockedH⟩ := hhi
  cases session with
  | lockingAdmins args admins pending =>
    cases pending with
    | nil => cases hnext
    | cons id pending => exact ⟨args, admins, id, pending, hsession⟩
  | lockingUser args admins row =>
    exfalso
    obtain rfl : row = id := Option.some.inj hnext
    obtain ⟨-, hlock, -, ⟨a, ha, haid, huser⟩, honly⟩ := hs.ok i _ hsession
    -- it holds the row that `h` waits for, so it has locked the administrators before its target
    have hadmins : admins ≠ [] := by
      obtain ⟨session', hsession', hheld⟩ := (hs.held idH i).mp hlockedH
      obtain rfl := Option.some.inj (hsession.symm.trans hsession')
      exact fun hnil => by simp [Session.held, hnil] at hheld
    -- its target is locked by a session that waits, so it is an active administrator
    obtain ⟨session', hsession', hheld⟩ := (hs.held row j).mp hlocked
    obtain rfl := Option.some.inj (hsessionJ.symm.trans hsession')
    obtain ⟨b, hb, hbid, hadmin⟩ := hs.admin_of_held hsessionJ hnextJ hheld
    obtain rfl := Table.eq_of_key hb ha (hbid.trans haid.symm)
    exact List.not_mem_nil (honly trivial (hlock hadmins) b hb huser hadmin)
  | ready | nameFree | accountFree | adminsLocked | writing | loading | finished => cases hnext

theorem Inv.not_waits_cycle (i : SessionId) : ¬ TransGen (Waits s) i i := by
  refine @not_transGen_self_of_lt _ _ _ (Waits s)
    (fun i => ((s.sessions i).bind Session.next?).getD 0) (fun i j hij hi hj => ?_) i
  obtain ⟨args, admins, id, pending, hsession⟩ := hs.locking_of_cycle hi
  obtain ⟨args', admins', id', pending', hsession'⟩ := hs.locking_of_cycle hj
  obtain ⟨-, session, next, hsessionI, hnext, hlocked⟩ := hij
  obtain rfl := Option.some.inj (hsession.symm.trans hsessionI)
  obtain rfl : id = next := Option.some.inj hnext
  obtain ⟨session, hsessionJ, hheld⟩ := (hs.held id j).mp hlocked
  obtain rfl := Option.some.inj (hsession'.symm.trans hsessionJ)
  have hsorted := (hs.ok j _ hsession').2.2.2.1
  have hlt := (List.pairwise_append.mp hsorted).2.2 id hheld id' (List.mem_cons_self ..)
  simpa [hsession, hsession', Session.next?] using hlt

end Waiting

/-! ## Runs -/

theorem inv_run (host : Host) {as : List Action} {s : System} (hs : Inv clear s)
    (hplain : ∀ a ∈ as, a.IsPlain) (hclear : clear → Admits (step host) IsClear s as) :
    Inv clear (exec (step host) s as) := by
  induction as generalizing s with
  | nil => exact hs
  | cons a as ih =>
    have hfirst := hs.step host (hplain a (List.mem_cons_self ..)) fun hc => (hclear hc).1
    exact ih hfirst (fun b hb => hplain b (List.mem_cons_of_mem _ hb)) fun hc => (hclear hc).2

/-- An active administrator remains in every state of every run, and no calls wait in a cycle in a
run in which no account becomes an active administrator between the two statements of a call that
takes a flag from it. -/
theorem active_admin_remains (host : Host) (users : Table Account) (as : List Action)
    (hadmin : HasActiveAdmin users) (hplain : ∀ a ∈ as, a.IsPlain) :
    HasActiveAdmin (exec (step host) (System.start users) as).users ∧
      (Admits (step host) IsClear (System.start users) as →
        ∀ sid, ¬ TransGen (Waits (exec (step host) (System.start users) as)) sid sid) := by
  have hstart : ∀ clear, Inv clear (System.start users) := fun _ => inv_start hadmin
  refine ⟨?_, fun hclear sid => ?_⟩
  · exact (inv_run host (hstart False) hplain False.elim).admin
  · exact (inv_run host (hstart True) hplain fun _ => hclear).not_waits_cycle sid

theorem isClear_of_promoted {s : System} {a : Action} (h : promoted? s a = none) : IsClear s a :=
  fun _ hpromoted => by rw [h] at hpromoted; cases hpromoted

def account (id : Nat) (name : String) (isAdmin : Bool) : Account :=
  ⟨⟨name, name, none, "", true, isAdmin, 0⟩, id⟩

/-- `set_account_flags(name, is_admin=...)`. -/
def setAdmin (name : String) (isAdmin : Bool) : Call :=
  .setAccountFlags ⟨name, none, some isAdmin, none, false⟩

def twoAdmins : Table Account := ⟨[account 1 "ann" true, account 2 "bob" true], by decide⟩

def tomAndAdmins : Table Account :=
  ⟨[account 1 "tom" false, account 2 "ann" true, account 3 "bob" true], by decide⟩

def demoteEachOther : List Action :=
  [.start 0 (setAdmin "ann" false), .start 1 (setAdmin "bob" false), .advance 0, .advance 1,
    .advance 0, .advance 1, .advance 0, .advance 0, .advance 0, .advance 1, .advance 1, .advance 1]

theorem active_admin_remains_two :
    HasActiveAdmin (exec (step smallHost) (System.start twoAdmins) demoteEachOther).users ∧
      ∀ sid, ¬ TransGen
        (Waits (exec (step smallHost) (System.start twoAdmins) demoteEachOther)) sid sid := by
  obtain ⟨hadmin, hcycle⟩ := active_admin_remains smallHost twoAdmins demoteEachOther
    ⟨account 1 "ann" true, by simp [twoAdmins, Table.mem_def], rfl⟩
    (by simp [demoteEachOther, Action.IsPlain, setAdmin])
  refine ⟨hadmin, hcycle ?_⟩
  refine ⟨?_, ?_, ?_, ?_, ?_, ?_, ?_, ?_, ?_, ?_, ?_, ?_, trivial⟩ <;>
    exact isClear_of_promoted rfl

/-- A user is made an administrator between the two statements of a call that is to deactivate it,
and a third call locks its row before those of the administrators that the first call has locked. -/
def promoteBetween : List Action :=
  [.start 0 (.setAccountFlags ⟨"tom", some false, none, none, false⟩), .advance 0, .advance 0,
    .advance 0, .advance 0,
    .start 1 (setAdmin "tom" true), .advance 1, .advance 1, .advance 1,
    .start 2 (setAdmin "bob" false), .advance 2, .advance 2,
    .advance 0]

theorem active_admin_deadlock :
    ¬ ∀ (host : Host) (users : Table Account) (as : List Action), HasActiveAdmin users →
      (∀ a ∈ as, a.IsPlain) → HasActiveAdmin (exec (step host) (System.start users) as).users ∧
        ∀ sid, ¬ TransGen (Waits (exec (step host) (System.start users) as)) sid sid := by
  intro h
  have hcycle := (h smallHost tomAndAdmins promoteBetween
    ⟨account 2 "ann" true, by simp [tomAndAdmins, Table.mem_def], rfl⟩
    (by simp [promoteBetween, Action.IsPlain, setAdmin])).2 0
  have hfirst : Waits (exec (step smallHost) (System.start tomAndAdmins) promoteBetween) 0 2 :=
    ⟨by decide, _, 1, rfl, rfl, rfl⟩
  have hthird : Waits (exec (step smallHost) (System.start tomAndAdmins) promoteBetween) 2 0 :=
    ⟨by decide, _, 2, rfl, rfl, rfl⟩
  exact hcycle (TransGen.tail (TransGen.single hfirst) hthird)

end Auth.Accounts
