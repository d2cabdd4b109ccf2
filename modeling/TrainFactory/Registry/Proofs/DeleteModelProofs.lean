import TrainFactory.Lib.Result
import TrainFactory.Lib.Run
import TrainFactory.Registry.DeleteModel

/-!
# Runs of `delete_model` on one row

The state that the first run has found travels in the intent: through renewals, and to the runs that
take the intent over. That external cleanup has begun is known only to the run that began it.
-/

namespace Registry

open Lib

variable {clock : Clock} {m₀ m m' : ModelRow} {s : Deletions}

/-! ## The intent in a row -/

/-- The row is under deletion, with an intent that keeps the status and the metadata of `m₀`. -/
structure CarriesOriginal (m₀ m : ModelRow) : Prop where
  deleting : m.status = "deleting"
  carried : ∃ intent, intentOf m.extraMetadata = some intent ∧
    intent.lookup "original_status" = some (.str m₀.status) ∧
    intent.lookup "original_extra_metadata" = some (jsonOf m₀.extraMetadata) ∧
    intent.lookup "had_extra_metadata" = some (.bool m₀.extraMetadata.isSome)

structure AsFound (m₀ m : ModelRow) : Prop where
  status : m.status = m₀.status
  metadata : m.extraMetadata = m₀.extraMetadata

theorem intentOf_setEntry (kvs intent : List (String × Json)) :
    intentOf (some (.obj (Json.setEntry kvs modelDeleteIntentMetadataKey (.obj intent)))) =
      some intent := by
  simp [intentOf, Json.get?]

theorem intentToken_of_intent {intent : List (String × Json)} {token : String}
    (hstatus : m.status = "deleting") (hintent : intentOf m.extraMetadata = some intent)
    (htoken : intent.lookup "token" = some (.str token)) (hne : token ≠ "") :
    m.intentToken = some token := by
  simp [ModelRow.intentToken, hstatus, hintent, htoken, hne]

theorem AsFound.intentToken (h : AsFound m₀ m) : m.intentToken = m₀.intentToken := by
  unfold ModelRow.intentToken
  rw [h.status, h.metadata]

theorem CarriesOriginal.renewed (h : CarriesOriginal m₀ m) (now : Nat) :
    CarriesOriginal m₀ (clock.renewed m now) := by
  obtain ⟨hstatus, intent, hintent, horiginal, hmetadata, hhad⟩ := h
  refine ⟨hstatus, _, intentOf_setEntry _ _, ?_, ?_, ?_⟩
  all_goals rw [Json.lookup_setEntry_of_ne _ _ (by decide), hintent]
  · exact horiginal
  · exact hmetadata
  · exact hhad

theorem CarriesOriginal.originalOf (h : CarriesOriginal m₀ m) {intent : List (String × Json)}
    (hintent : intentOf m.extraMetadata = some intent) {original : Original}
    (horiginal : originalOf m intent = some original) :
    original = ⟨m₀.status, m₀.extraMetadata⟩ ∧ m₀.status ≠ "deleting" := by
  obtain ⟨-, intent', hintent', hstatus, hmetadata, hhad⟩ := h
  obtain rfl := Option.some.inj (hintent.symm.trans hintent')
  unfold Registry.originalOf at horiginal
  simp only [valueOf, hstatus, hmetadata, hhad] at horiginal
  split_ifs at horiginal with hcheck
  simp only [not_or, not_and, not_not] at hcheck
  obtain ⟨hdeleting, hdict, -, -⟩ := hcheck
  obtain rfl := Option.some.inj horiginal
  refine ⟨?_, hdeleting⟩
  cases hm₀ : m₀.extraMetadata with
  | none => rfl
  | some value =>
    rw [hm₀] at hdict
    cases value with
    | null => exact absurd (hdict rfl) (by simp [jsonOf])
    | _ => rfl

theorem publishIntent_ok {token : String} {now : Nat} {original : Original}
    (hm : AsFound m₀ m ∨ CarriesOriginal m₀ m) (hm₀ : m₀.intentToken = none)
    (h : clock.publishIntent m token now = .ok (m', original)) (hne : token ≠ "") :
    original = ⟨m₀.status, m₀.extraMetadata⟩ ∧ m₀.status ≠ "deleting" ∧
      CarriesOriginal m₀ m' ∧ m'.intentToken = some token := by
  obtain ⟨-, h⟩ := ite_error_eq_ok.mp h
  obtain ⟨found, hfound, h⟩ := bind_eq_ok.mp h
  obtain ⟨metadata, -, h⟩ := bind_eq_ok.mp h
  obtain ⟨rfl, rfl⟩ := Prod.mk.inj (pure_eq_ok.mp h)
  have horiginal : found = ⟨m₀.status, m₀.extraMetadata⟩ ∧ m₀.status ≠ "deleting" := by
    unfold Clock.findOriginal at hfound
    split at hfound
    · rename_i hdeleting
      split at hfound
      · rename_i token' intent htoken hintent
        split at hfound
        · split at hfound
          · rename_i original' horiginal'
            obtain rfl := Except.ok.inj hfound
            rcases hm with hm | hm
            · rw [hm.intentToken, hm₀] at htoken
              exact absurd htoken (by simp)
            · exact hm.originalOf hintent horiginal'
          · exact absurd hfound (by simp)
        · exact absurd hfound (by simp)
      · exact absurd hfound (by simp)
    · rename_i hdeleting
      obtain ⟨-, hfound⟩ := ite_error_eq_ok.mp hfound
      obtain rfl := Except.ok.inj hfound
      rcases hm with hm | hm
      · exact ⟨by rw [hm.status, hm.metadata], fun hm₀ => hdeleting (hm.status.trans hm₀)⟩
      · exact absurd hm.deleting hdeleting
  obtain ⟨rfl, hdeleting⟩ := horiginal
  refine ⟨rfl, hdeleting, ⟨rfl, _, intentOf_setEntry _ _, rfl, rfl, rfl⟩, ?_⟩
  exact intentToken_of_intent rfl (intentOf_setEntry _ _) rfl hne

/-! ## What a run does to the row -/

/-- The row is renewed or deleted under its intent, or stays. -/
inductive RowMove (clock : Clock) (token : String) : Option ModelRow → Option ModelRow → Prop where
  | stay (row : Option ModelRow) : RowMove clock token row row
  | renew {m : ModelRow} (h : m.intentToken = some token) (now : Nat) :
      RowMove clock token (some m) (some (clock.renewed m now))
  | delete {m : ModelRow} (h : m.intentToken = some token) : RowMove clock token (some m) none

def Stage.isFenced : Stage → Bool
  | .discover | .renew | .validate | .finalDelete => true
  | _ => false

theorem renewModelDeleteIntent_ok {row : Option ModelRow} {token : String} {now : Nat}
    (h : clock.renewModelDeleteIntent row token now = .ok m) :
    ∃ m₁, row = some m₁ ∧ m₁.intentToken = some token ∧ m = clock.renewed m₁ now := by
  cases row with
  | none => exact absurd h (by simp [Clock.renewModelDeleteIntent])
  | some m₁ =>
    obtain ⟨htoken, h⟩ := ite_error_eq_ok.mp h
    exact ⟨m₁, rfl, not_not.mp htoken, (Except.ok.inj h).symm⟩

theorem requireDeleteIntent_ok {row : Option ModelRow} {token : String}
    (h : requireDeleteIntent row token = .ok ()) :
    ∃ m, row = some m ∧ m.intentToken = some token := by
  cases row with
  | none => exact absurd h (by simp [requireDeleteIntent])
  | some m =>
    obtain ⟨htoken, -⟩ := ite_error_eq_ok.mp h
    exact ⟨m, rfl, not_not.mp htoken⟩

theorem runStage_ok {stage : Stage} {row row' : Option ModelRow} {token : String} {now : Nat}
    (h : clock.runStage stage row token now = .ok row') :
    RowMove clock token row row' ∧
      (stage.isFenced = true → ∃ m, row = some m ∧ m.intentToken = some token) ∧
      (stage.isExternal = true → row' = row) := by
  cases stage with
  | discover | validate =>
    obtain ⟨_, hrequired, h⟩ := bind_eq_ok.mp h
    obtain rfl := pure_eq_ok.mp h
    exact ⟨.stay _, fun _ => requireDeleteIntent_ok hrequired, fun _ => rfl⟩
  | renew =>
    obtain ⟨m, hrenewed, h⟩ := bind_eq_ok.mp h
    obtain rfl := pure_eq_ok.mp h
    obtain ⟨m₁, rfl, htoken, rfl⟩ := renewModelDeleteIntent_ok hrenewed
    exact ⟨.renew htoken now, fun _ => ⟨m₁, rfl, htoken⟩,
      fun hx => absurd hx (by simp [Stage.isExternal])⟩
  | claim | removeContainer | lookup | removeStorage =>
    obtain rfl := Except.ok.inj h
    exact ⟨.stay _, fun hx => absurd hx (by simp [Stage.isFenced]), fun _ => rfl⟩
  | finalDelete =>
    obtain ⟨_, hrequired, h⟩ := bind_eq_ok.mp h
    obtain rfl := pure_eq_ok.mp h
    obtain ⟨m, rfl, htoken⟩ := requireDeleteIntent_ok hrequired
    exact ⟨.delete htoken, fun _ => ⟨m, rfl, htoken⟩,
      fun hx => absurd hx (by simp [Stage.isExternal])⟩

/-- The next stage of a run is an external call. -/
def DeleteRun.startsCleanup (run : DeleteRun) : Bool :=
  run.phase = .running && run.stages.head?.any Stage.isExternal

/-- What a stage does: it moves the row under the intent, and notes that cleanup has started before
an external call; the row stays where cleanup starts. -/
theorem advance_spec (clock : Clock) (row : Option ModelRow) (run : DeleteRun) (verdict : Verdict)
    (now : Nat) :
    RowMove clock run.token row (clock.advance row run verdict now).1 ∧
      (clock.advance row run verdict now).2.token = run.token ∧
      (clock.advance row run verdict now).2.original = run.original ∧
      (clock.advance row run verdict now).2.externalCleanupStarted =
        (run.externalCleanupStarted || run.startsCleanup) ∧
      (run.startsCleanup = true → (clock.advance row run verdict now).1 = row) := by
  obtain ⟨token, original, started, stages, phase⟩ := run
  cases phase with
  | raised => simp [Clock.advance, DeleteRun.startsCleanup, RowMove.stay]
  | ended => simp [Clock.advance, DeleteRun.startsCleanup, RowMove.stay]
  | running =>
    cases stages with
    | nil => simp [Clock.advance, DeleteRun.startsCleanup, RowMove.stay]
    | cons stage stages =>
      simp only [Clock.advance, DeleteRun.startsCleanup, decide_true, Bool.true_and,
        List.head?_cons, Option.any_some]
      split_ifs with hraises
      · exact ⟨.stay _, rfl, rfl, rfl, fun _ => rfl⟩
      · cases hstage : clock.runStage stage row token now with
        | error e => exact ⟨.stay _, rfl, rfl, rfl, fun _ => rfl⟩
        | ok row' =>
          obtain ⟨hmove, -, hexternal⟩ := runStage_ok hstage
          exact ⟨hmove, rfl, rfl, rfl, hexternal⟩

/-! ## The system -/

/-- The row carries the intent of a run. -/
def Deletions.Holds (s : Deletions) (i : Nat) : Prop :=
  ∃ run m, s.runs[i]? = some run ∧ s.row = some m ∧ m.intentToken = some run.token

def Deletions.Cleaned (s : Deletions) : Prop := ∃ run ∈ s.runs, run.externalCleanupStarted = true

/-- The row is not offered again: at most one run holds it, only that one passes a fenced stage,
without any cleanup the row leaves `deleting` only as `m₀` was or by its deletion, and once a cleanup
has started it does not leave it otherwise than by its deletion. -/
structure IntentSafe (clock : Clock) (m₀ : ModelRow) (s : Deletions) : Prop where
  exclusive : ∀ i j, s.Holds i → s.Holds j → i = j
  fenced : ∀ (i : Nat) (run : DeleteRun) (stage : Stage) (stages : List Stage) verdict now,
    s.runs[i]? = some run → run.phase = .running → run.stages = stage :: stages →
    stage.isFenced = true → ¬ s.Holds i →
    s.step clock (.advance i verdict now) =
      { s with runs := s.runs.set i { run with phase := .raised } }
  restored : ¬ s.Cleaned → ∀ m, s.row = some m →
    m.status = "deleting" ∨ m.status = m₀.status ∧ m.extraMetadata = m₀.extraMetadata
  kept : s.Cleaned → ∀ m, s.row = some m → m.status = "deleting"

/-- The step does not restore the row after a cleanup has started, or with an empty status, and does
not start a cleanup after the row has been restored. -/
def RestoresSafely (s : Deletions) : DeleteCall → Prop
  | .handle i => ∀ run : DeleteRun, s.runs[i]? = some run → run.phase = .raised →
      run.externalCleanupStarted = false → s.Holds i → run.original.status ≠ "" ∧ ¬ s.Cleaned
  | .advance i _ _ => ∀ run : DeleteRun, s.runs[i]? = some run → run.startsCleanup = true →
      ∀ m, s.row = some m → m.status = "deleting"
  | _ => True

/-- The invariant of the runs on a row that was `m₀` before the first. -/
structure IntentInv (m₀ : ModelRow) (s : Deletions) : Prop where
  tokens : (s.runs.map DeleteRun.token).Nodup
  originals : ∀ run ∈ s.runs, run.original = ⟨m₀.status, m₀.extraMetadata⟩ ∧
    m₀.status ≠ "deleting" ∧ run.token ≠ ""
  row : ∀ m, s.row = some m → AsFound m₀ m ∨ CarriesOriginal m₀ m
  kept : s.Cleaned → ∀ m, s.row = some m → m.status = "deleting"

theorem CarriesOriginal.of_token {token : String} (hm₀ : m₀.intentToken = none)
    (hm : AsFound m₀ m ∨ CarriesOriginal m₀ m) (htoken : m.intentToken = some token) :
    CarriesOriginal m₀ m := by
  rcases hm with hm | hm
  · rw [hm.intentToken, hm₀] at htoken
    exact absurd htoken (by simp)
  · exact hm

theorem RowMove.row {token : String} {row row' : Option ModelRow}
    (hmove : RowMove clock token row row') (hm₀ : m₀.intentToken = none)
    (h : ∀ m, row = some m → AsFound m₀ m ∨ CarriesOriginal m₀ m) :
    ∀ m, row' = some m → AsFound m₀ m ∨ CarriesOriginal m₀ m := by
  cases hmove with
  | stay => exact h
  | renew htoken now =>
    intro m hm
    obtain rfl := Option.some.inj hm
    exact Or.inr ((CarriesOriginal.of_token hm₀ (h _ rfl) htoken).renewed now)
  | delete htoken =>
    intro m hm
    exact absurd hm (by simp)

theorem RowMove.deleting {token : String} {row row' : Option ModelRow}
    (hmove : RowMove clock token row row') (h : ∀ m, row = some m → m.status = "deleting") :
    ∀ m, row' = some m → m.status = "deleting" := by
  cases hmove with
  | stay => exact h
  | @renew m₁ htoken now =>
    intro m hm
    obtain rfl := Option.some.inj hm
    exact h m₁ rfl
  | delete htoken =>
    intro m hm
    exact absurd hm (by simp)

theorem IntentInv.set (h : IntentInv m₀ s) {i : Nat} {run : DeleteRun} (run' : DeleteRun)
    (hrun : s.runs[i]? = some run) (htoken : run'.token = run.token)
    (horiginal : run'.original = run.original) {row : Option ModelRow}
    (hrow : ∀ m, row = some m → AsFound m₀ m ∨ CarriesOriginal m₀ m)
    (hkept : (⟨row, s.runs.set i run'⟩ : Deletions).Cleaned →
      ∀ m, row = some m → m.status = "deleting") :
    IntentInv m₀ ⟨row, s.runs.set i run'⟩ := by
  refine ⟨?_, ?_, hrow, hkept⟩
  · have hmap : (s.runs.set i run').map DeleteRun.token = s.runs.map DeleteRun.token := by
      obtain ⟨hi, hget⟩ := List.getElem?_eq_some_iff.mp hrun
      have hi' : i < (s.runs.map DeleteRun.token).length := by simpa using hi
      have hsame : run'.token = (s.runs.map DeleteRun.token)[i] := by
        rw [htoken, List.getElem_map, hget]
      rw [List.map_set, hsame, List.set_getElem_self]
    rw [hmap]
    exact h.tokens
  · intro run'' hmem
    rcases List.mem_or_eq_of_mem_set hmem with hmem | rfl
    · exact h.originals run'' hmem
    · rw [htoken, horiginal]
      exact h.originals run (List.mem_of_getElem? hrun)

theorem cleaned_set {row : Option ModelRow} {runs : List DeleteRun} {i : Nat} {run : DeleteRun} :
    (⟨row, runs.set i run⟩ : Deletions).Cleaned →
      (∃ run ∈ runs, run.externalCleanupStarted = true) ∨ run.externalCleanupStarted = true := by
  rintro ⟨run', hmem, hstarted⟩
  rcases List.mem_or_eq_of_mem_set hmem with hmem | rfl
  · exact Or.inl ⟨run', hmem, hstarted⟩
  · exact Or.inr hstarted

theorem IntentInv.holds_unique (h : IntentInv m₀ s) {i j : Nat} (hi : s.Holds i) (hj : s.Holds j) :
    i = j := by
  obtain ⟨run, m, hrun, hrow, htoken⟩ := hi
  obtain ⟨run', m', hrun', hrow', htoken'⟩ := hj
  obtain rfl := Option.some.inj (hrow.symm.trans hrow')
  have hsame : run.token = run'.token := Option.some.inj (htoken.symm.trans htoken')
  have hi : (s.runs.map DeleteRun.token)[i]? = some run.token := by simp [hrun]
  have hj : (s.runs.map DeleteRun.token)[j]? = some run.token := by simp [hrun', hsame]
  have hlt : i < (s.runs.map DeleteRun.token).length := (List.getElem?_eq_some_iff.mp hi).1
  exact (List.getElem?_inj hlt h.tokens).mp (hi.trans hj.symm)

theorem advance_fenced {i : Nat} {run : DeleteRun} {stage : Stage} {stages : List Stage}
    (hrun : s.runs[i]? = some run) (hphase : run.phase = .running)
    (hstages : run.stages = stage :: stages) (hfenced : stage.isFenced = true)
    (hholds : ¬ s.Holds i) (verdict : Verdict) (now : Nat) :
    s.step clock (.advance i verdict now) =
      { s with runs := s.runs.set i { run with phase := .raised } } := by
  have hexternal : stage.isExternal = false := by
    cases stage <;> simp_all [Stage.isFenced, Stage.isExternal]
  have hfails : ∀ row', clock.runStage stage s.row run.token now ≠ .ok row' := by
    intro row' hok
    obtain ⟨m, hrow, htoken⟩ := (runStage_ok hok).2.1 hfenced
    exact hholds ⟨run, m, hrun, hrow, htoken⟩
  obtain ⟨token, original, started, stages', phase⟩ := run
  obtain rfl : phase = .running := hphase
  obtain rfl : stages' = stage :: stages := hstages
  simp only [Deletions.step, hrun, Clock.advance, hexternal, Bool.or_false]
  split_ifs with hraises
  · rfl
  · cases hstage : clock.runStage stage s.row token now with
    | error e => rfl
    | ok row' => exact absurd hstage (hfails row')

theorem IntentInv.safe (h : IntentInv m₀ s) : IntentSafe clock m₀ s := by
  refine ⟨fun i j => h.holds_unique, ?_, ?_, h.kept⟩
  · intro i run stage stages verdict now hrun hphase hstages hfenced hholds
    exact advance_fenced hrun hphase hstages hfenced hholds verdict now
  · intro _ m hm
    rcases h.row m hm with hm | hm
    · exact Or.inr ⟨hm.status, hm.metadata⟩
    · exact Or.inl hm.deleting

theorem intentInv_ofRow (m₀ : ModelRow) : IntentInv m₀ (Deletions.ofRow m₀) := by
  refine ⟨by simp [Deletions.ofRow], fun run hmem => absurd hmem (by simp [Deletions.ofRow]), ?_, ?_⟩
  · intro m hm
    obtain rfl := Option.some.inj hm
    exact Or.inl ⟨rfl, rfl⟩
  · rintro ⟨run, hmem, -⟩
    exact absurd hmem (by simp [Deletions.ofRow])

theorem restoreIntent_eq_some {token : String} {original : Original} {row : Option ModelRow}
    (h : restoreIntent row token original = some m) :
    (row = some m ∧ m.intentToken ≠ some token) ∨ ∃ m₁, row = some m₁ ∧
      m₁.intentToken = some token ∧ m = { m₁ with
        status := if original.status = "" then "registered" else original.status
        extraMetadata := original.extraMetadata } := by
  cases row with
  | none => exact absurd h (by simp [restoreIntent])
  | some m₁ =>
    have h' := Option.some.inj h
    by_cases htoken : m₁.intentToken = some token
    · simp only [htoken, if_true] at h'
      exact Or.inr ⟨m₁, rfl, htoken, h'.symm⟩
    · simp only [htoken, if_false] at h'
      subst h'
      exact Or.inl ⟨rfl, htoken⟩

theorem IntentInv.step (hm₀ : m₀.intentToken = none) (h : IntentInv m₀ s) (call : DeleteCall)
    (hcall : RestoresSafely s call) : IntentInv m₀ (s.step clock call) := by
  cases call with
  | start token now =>
    simp only [Deletions.step]
    split_ifs with hused
    · exact h
    · simp only [not_or, Bool.not_eq_true, List.any_eq_false, decide_eq_true_eq] at hused
      obtain ⟨hne, hfresh⟩ := hused
      cases hrow : s.row with
      | none => simpa only [hrow] using h
      | some m =>
        simp only
        cases hpublish : clock.publishIntent m token now with
        | error e => exact h
        | ok result =>
          obtain ⟨m', original⟩ := result
          obtain ⟨rfl, hdeleting, hcarries, -⟩ := publishIntent_ok (h.row m hrow) hm₀ hpublish hne
          refine ⟨?_, ?_, ?_, ?_⟩
          · rw [List.map_append, List.nodup_append]
            refine ⟨h.tokens, by simp, ?_⟩
            rintro a ha b hb rfl
            obtain ⟨run, hmem, htoken⟩ := List.mem_map.mp ha
            simp only [List.map_cons, List.map_nil, List.mem_singleton] at hb
            exact hfresh run hmem (htoken.trans hb)
          · intro run hmem
            rcases List.mem_append.mp hmem with hmem | hmem
            · exact h.originals run hmem
            · obtain rfl := List.mem_singleton.mp hmem
              exact ⟨rfl, hdeleting, hne⟩
          · intro m₁ hm₁
            obtain rfl := Option.some.inj hm₁
            exact Or.inr hcarries
          · intro _ m₁ hm₁
            obtain rfl := Option.some.inj hm₁
            exact hcarries.deleting
  | advance i verdict now =>
    simp only [Deletions.step]
    cases hrun : s.runs[i]? with
    | none => exact h
    | some run =>
      obtain ⟨hmove, htoken, horiginal, hstarted, hstay⟩ :=
        advance_spec clock s.row run verdict now
      refine h.set _ hrun htoken horiginal (hmove.row hm₀ h.row) fun hcleaned => ?_
      rcases cleaned_set hcleaned with hcleaned | hnow
      · exact hmove.deleting (h.kept hcleaned)
      · rw [hstarted, Bool.or_eq_true] at hnow
        rcases hnow with hbefore | hstarts
        · exact hmove.deleting (h.kept ⟨run, List.mem_of_getElem? hrun, hbefore⟩)
        · rw [hstay hstarts]
          exact hcall run hrun hstarts
  | heartbeat i now =>
    simp only [Deletions.step]
    cases hrun : s.runs[i]? with
    | none => exact h
    | some run =>
      have hmove : RowMove clock run.token s.row (clock.heartbeat s.row run now) := by
        unfold Clock.heartbeat
        cases hrenew : clock.renewModelDeleteIntent s.row run.token now with
        | error e => exact .stay _
        | ok m =>
          obtain ⟨m₁, hrow, htoken, rfl⟩ := renewModelDeleteIntent_ok hrenew
          rw [hrow]
          exact .renew htoken now
      exact ⟨h.tokens, h.originals, hmove.row hm₀ h.row,
        fun hcleaned => hmove.deleting (h.kept hcleaned)⟩
  | handle i =>
    simp only [Deletions.step]
    cases hrun : s.runs[i]? with
    | none => exact h
    | some run =>
      by_cases hphase : run.phase = .raised
      · simp only [handle, if_pos hphase]
        by_cases hstarted : run.externalCleanupStarted = true
        · rw [if_pos hstarted]
          refine h.set { run with phase := .ended } hrun rfl rfl h.row fun _ => ?_
          exact h.kept ⟨run, List.mem_of_getElem? hrun, hstarted⟩
        · rw [if_neg hstarted]
          rw [Bool.not_eq_true] at hstarted
          have hcleaned : (⟨restoreIntent s.row run.token run.original, s.runs.set i
              { run with phase := .ended }⟩ : Deletions).Cleaned → s.Cleaned := by
            intro hc
            refine (cleaned_set hc).resolve_right ?_
            simp [hstarted]
          obtain ⟨horiginal, -, -⟩ := h.originals run (List.mem_of_getElem? hrun)
          refine h.set { run with phase := .ended } hrun rfl rfl ?_ ?_
          · intro m hm
            rcases restoreIntent_eq_some hm with ⟨hrow, -⟩ | ⟨m₁, hrow, htoken, rfl⟩
            · exact h.row m hrow
            · have hsafe := (hcall run hrun hphase hstarted ⟨run, m₁, hrun, hrow, htoken⟩).1
              refine Or.inl ⟨?_, by rw [horiginal]⟩
              rw [if_neg hsafe, horiginal]
          · intro hc m hm
            rcases restoreIntent_eq_some hm with ⟨hrow, -⟩ | ⟨m₁, hrow, htoken, rfl⟩
            · exact h.kept (hcleaned hc) m hrow
            · exact absurd (hcleaned hc)
                (hcall run hrun hphase hstarted ⟨run, m₁, hrun, hrow, htoken⟩).2
      · simp only [handle, if_neg hphase]
        refine h.set run hrun rfl rfl h.row fun hc => ?_
        rcases cleaned_set hc with hc | hstarted
        · exact h.kept hc
        · exact h.kept ⟨run, List.mem_of_getElem? hrun, hstarted⟩
  | crash i =>
    simp only [Deletions.step]
    cases hrun : s.runs[i]? with
    | none => exact h
    | some run =>
      show IntentInv m₀ ⟨s.row, s.runs.set i { run with phase := .ended }⟩
      refine h.set { run with phase := .ended } hrun rfl rfl h.row fun hc => ?_
      rcases cleaned_set hc with hc | hstarted
      · exact h.kept hc
      · exact h.kept ⟨run, List.mem_of_getElem? hrun, hstarted⟩

/-- A step that breaks the condition leaves a row that is offered again. -/
theorem IntentInv.not_safe (h : IntentInv m₀ s) {call : DeleteCall}
    (hcall : ¬ RestoresSafely s call) : ¬ IntentSafe clock m₀ (s.step clock call) := by
  intro hsafe
  cases call with
  | start token now => exact hcall trivial
  | heartbeat i now => exact hcall trivial
  | crash i => exact hcall trivial
  | advance i verdict now =>
    simp only [RestoresSafely, not_forall] at hcall
    obtain ⟨run, hrun, hstarts, m, hrow, hstatus⟩ := hcall
    obtain ⟨-, -, -, hstarted, hstay⟩ := advance_spec clock s.row run verdict now
    have hstep : s.step clock (.advance i verdict now) =
        ⟨s.row, s.runs.set i (clock.advance s.row run verdict now).2⟩ := by
      simp only [Deletions.step, hrun, hstay hstarts]
    rw [hstep] at hsafe
    have hlt : i < s.runs.length := (List.getElem?_eq_some_iff.mp hrun).1
    refine hstatus (hsafe.kept ⟨(clock.advance s.row run verdict now).2, ?_, ?_⟩ m hrow)
    · exact List.mem_set hlt _
    · rw [hstarted, hstarts, Bool.or_true]
  | handle i =>
    simp only [RestoresSafely, not_forall] at hcall
    obtain ⟨run, hrun, hphase, hstarted, hholds, hbad⟩ := hcall
    obtain ⟨run', m, hrun', hrow, htoken⟩ := hholds
    obtain rfl := Option.some.inj (hrun.symm.trans hrun')
    obtain ⟨horiginal, hdeleting, -⟩ := h.originals run (List.mem_of_getElem? hrun)
    have hlt : i < s.runs.length := (List.getElem?_eq_some_iff.mp hrun).1
    let m' : ModelRow := { m with
      status := if run.original.status = "" then "registered" else run.original.status
      extraMetadata := run.original.extraMetadata }
    have hstep : s.step clock (.handle i) =
        ⟨some m', s.runs.set i { run with phase := .ended }⟩ := by
      simp [Deletions.step, hrun, handle, hphase, hstarted, hrow, restoreIntent, htoken, m']
    rw [hstep] at hsafe
    have hstatus : m'.status ≠ "deleting" := by
      show (if run.original.status = "" then "registered" else run.original.status) ≠ "deleting"
      split_ifs with hempty
      · decide
      · rw [horiginal]
        exact hdeleting
    by_cases hcleaned : s.Cleaned
    · -- some run has started its cleanup, and the row is offered again
      obtain ⟨run'', hmem, hstarted''⟩ := hcleaned
      obtain ⟨j, hj⟩ := List.getElem?_of_mem hmem
      have hne : i ≠ j := by
        rintro rfl
        obtain rfl := Option.some.inj (hrun.symm.trans hj)
        rw [hstarted] at hstarted''
        exact absurd hstarted'' (by simp)
      refine hstatus (hsafe.kept ⟨run'', ?_, hstarted''⟩ m' rfl)
      refine List.mem_of_getElem? (i := j) ?_
      rw [List.getElem?_set_ne hne]
      exact hj
    · -- the status that is restored is not the one that was found
      have hempty : run.original.status = "" := by
        by_contra hne
        exact hbad ⟨hne, hcleaned⟩
      have hclean : ¬ (⟨some m', s.runs.set i { run with phase := .ended }⟩ : Deletions).Cleaned := by
        intro hc
        rcases cleaned_set hc with hc | hc
        · exact hcleaned hc
        · exact absurd (hstarted.symm.trans hc) (by simp)
      rcases hsafe.restored hclean m' rfl with hdel | ⟨hsame, -⟩
      · exact hstatus hdel
      · have hfound : m₀.status = "" := by
          rw [horiginal] at hempty
          exact hempty
        have hregistered : m'.status = "registered" := if_pos hempty
        rw [hregistered, hfound] at hsame
        exact absurd hsame (by decide)

/-- In every run whose steps meet the condition a model under cleanup is not offered again; the first
step that breaks it offers it again. -/
theorem deletion_not_undone (clock : Clock) (m₀ : ModelRow) (hm₀ : m₀.intentToken = none)
    (calls : List DeleteCall)
    (hcalls : Admits (Deletions.step clock) RestoresSafely (Deletions.ofRow m₀) calls) :
    IntentSafe clock m₀ (exec (Deletions.step clock) (Deletions.ofRow m₀) calls) ∧
      ∀ call, ¬ RestoresSafely (exec (Deletions.step clock) (Deletions.ofRow m₀) calls) call →
        ¬ IntentSafe clock m₀
          ((exec (Deletions.step clock) (Deletions.ofRow m₀) calls).step clock call) := by
  have hrun : IntentInv m₀ (exec (Deletions.step clock) (Deletions.ofRow m₀) calls) :=
    exec_invariant (fun s call (h : IntentInv m₀ s) hcall => h.step hm₀ call hcall)
      (intentInv_ofRow m₀) hcalls
  exact ⟨hrun.safe, fun call hcall => hrun.not_safe hcall⟩

def twoDates : Clock where
  isoformat := fun now => if now = 0 then "2026-01-01T00:00:00" else "2026-01-01T00:02:01"
  fromIsoFormat := fun
    | .str "2026-01-01T00:00:00" => some (.naive 0)
    | .str "2026-01-01T00:02:01" => some (.naive 121000000)
    | _ => none

def availableModel : ModelRow where
  modelId := "model"
  modelName := "model"
  version := "v1.0.0"
  modelType := "embedding"
  sourceTaskId := none
  baseModelPath := none
  modelPath := "/models/model"
  modelPathHash := none
  sourceType := "downloaded"
  isAdapter := false
  downloadStatus := some "completed"
  description := none
  tags := none
  category := none
  extraMetadata := none
  metrics := none
  fileSize := none
  status := "available"
  isLatest := true
  userId := none

/-- A stage that meets nothing unusual, at the first date. -/
def passes (run : Nat) : DeleteCall := .advance run ⟨false, 0, true⟩ 0

/-- A run up to the removal of the artifact directory. -/
def untilRemoval : List DeleteCall :=
  .start "first" 0 :: List.replicate 9 (passes 0)

/-- The first run is held up after the removal, a second one takes its intent over two minutes later,
and the first one fails on its next stage while the second removes the directory again. -/
def takenOver : List DeleteCall :=
  untilRemoval ++ [passes 0, .start "second" 121000000, .advance 0 ⟨false, 0, true⟩ 121000000,
    .advance 1 ⟨false, 0, true⟩ 121000000, .handle 0] ++
    List.replicate 9 (.advance 1 ⟨false, 0, true⟩ 121000000)

theorem restoresSafely_advance {s : Deletions} {i : Nat} {verdict : Verdict} {now : Nat}
    (h : s.row.all (fun m => m.status = "deleting") = true) :
    RestoresSafely s (.advance i verdict now) := by
  intro run _ _ m hm
  rw [hm, Option.all_some, decide_eq_true_eq] at h
  exact h

theorem deletion_not_undone_takenOver :
    (exec (Deletions.step twoDates) (Deletions.ofRow availableModel) takenOver).runs.map
      (fun run => (run.externalCleanupStarted, run.phase)) = [(true, .ended), (true, .running)] ∧
    IntentSafe twoDates availableModel
      (exec (Deletions.step twoDates) (Deletions.ofRow availableModel) takenOver) := by
  refine ⟨rfl, (deletion_not_undone twoDates availableModel rfl takenOver ?_).1⟩
  have hhandle : ∀ {s : Deletions}, (s.runs[0]?).all (·.externalCleanupStarted) = true →
      RestoresSafely s (.handle 0) := by
    intro s h run hrun _ hnot
    rw [hrun, Option.all_some, hnot] at h
    cases h
  refine ⟨trivial, ?_, ?_, ?_, ?_, ?_, ?_, ?_, ?_, ?_, ?_, trivial, ?_, ?_, hhandle (by decide),
    ?_, ?_, ?_, ?_, ?_, ?_, ?_, ?_, ?_, trivial⟩
  all_goals exact restoresSafely_advance (by decide)

/-- The removal of the directory fails, and a later run takes the intent over and fails before its own
cleanup. -/
def restoredByTakeover : List DeleteCall :=
  untilRemoval ++ [.advance 0 ⟨true, 0, true⟩ 0, .handle 0, .start "second" 121000000,
    .advance 1 ⟨true, 0, true⟩ 121000000, .handle 1]

/-- The model whose directory has been removed in part is available again. -/
theorem removed_model_available :
    (∃ m, (exec (Deletions.step twoDates) (Deletions.ofRow availableModel)
        restoredByTakeover).row = some m ∧ m.status = "available") ∧
      ¬ IntentSafe twoDates availableModel
        (exec (Deletions.step twoDates) (Deletions.ofRow availableModel) restoredByTakeover) := by
  have hrow : (exec (Deletions.step twoDates) (Deletions.ofRow availableModel)
      restoredByTakeover).row = some availableModel := rfl
  have hstarted : ((exec (Deletions.step twoDates) (Deletions.ofRow availableModel)
      restoredByTakeover).runs.map DeleteRun.externalCleanupStarted) = [true, false] := rfl
  refine ⟨⟨_, hrow, rfl⟩, fun hsafe => ?_⟩
  have hcleaned : (exec (Deletions.step twoDates) (Deletions.ofRow availableModel)
      restoredByTakeover).Cleaned := by
    have hmem : true ∈ (exec (Deletions.step twoDates) (Deletions.ofRow availableModel)
        restoredByTakeover).runs.map DeleteRun.externalCleanupStarted := by
      rw [hstarted]
      exact List.mem_cons_self ..
    obtain ⟨run, hrun, hrun'⟩ := List.mem_map.mp hmem
    exact ⟨run, hrun, hrun'⟩
  exact absurd (hsafe.kept hcleaned _ hrow) (by decide)

end Registry
