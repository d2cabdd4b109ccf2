import TrainFactory.Sync.Documents
import TrainFactory.Sync.Proofs.BatchFilesProofs

/-!
# Proofs: reading a batch file in windows

The windows of a file are the documents of consecutive groups of its lines. A window reads whole
lines within its budget and leaves the others to the next one, and a fresh window takes at least one
line, so the iteration ends, and raises just where a line is too long or no record.
-/

namespace Sync

open Lib

variable {py : JsonReader} {maxDocs maxBytes maxLineBytes : Nat}

/-- The line fits a window of its own, and is a record. -/
def IsReadable (py : JsonReader) (maxBytes maxLineBytes : Nat) (line : Bytes) : Prop :=
  line.length ≤ min maxBytes maxLineBytes ∧ ∃ document, windowRecord py line = .ok document

/-! ## One window -/

structure Fills (py : JsonReader) (maxDocs maxBytes maxLineBytes : Nat) (documents : List Document)
    (windowBytes : Nat) (lines group rest : List Bytes) (read : List Document)
    (reachedEof : Bool) : Prop where
  split : lines = group ++ rest
  left : fileLines rest.flatten = rest
  records : group.map (windowRecord py) = read.map .ok
  readable : ∀ line ∈ group, IsReadable py maxBytes maxLineBytes line
  docs : (documents ++ read).length ≤ maxDocs
  bytes : windowBytes + group.flatten.length ≤ maxBytes
  eof : reachedEof = true → rest = []
  progress : reachedEof = false → documents = [] → 0 < maxDocs → 0 < maxBytes → read ≠ []

section Window

variable {documents : List Document} {windowBytes : Nat} {lines : List Bytes}

theorem Fills.stop (hlines : fileLines lines.flatten = lines) (hdocs : documents.length ≤ maxDocs)
    (hbytes : windowBytes ≤ maxBytes) {reachedEof : Bool} (heof : reachedEof = true → lines = [])
    (hfull : reachedEof = false → documents = [] → 0 < maxDocs → 0 < maxBytes → False) :
    Fills py maxDocs maxBytes maxLineBytes documents windowBytes lines [] lines [] reachedEof where
  split := rfl
  left := hlines
  records := rfl
  readable := fun _ h => absurd h List.not_mem_nil
  docs := by simpa using hdocs
  bytes := by simpa using hbytes
  eof := heof
  progress := fun hmore hempty hmd hmb _ => hfull hmore hempty hmd hmb

theorem Fills.cons {line : Bytes} {document : Document} {group rest : List Bytes}
    {read : List Document} {reachedEof : Bool}
    (hline : IsReadable py maxBytes maxLineBytes line) (hrecord : windowRecord py line = .ok document)
    (h : Fills py maxDocs maxBytes maxLineBytes (documents ++ [document])
      (windowBytes + line.length) lines group rest read reachedEof) :
    Fills py maxDocs maxBytes maxLineBytes documents windowBytes (line :: lines) (line :: group)
      rest (document :: read) reachedEof where
  split := by rw [h.split, List.cons_append]
  left := h.left
  records := by rw [List.map_cons, List.map_cons, hrecord, h.records]
  readable := by
    intro other hother
    rcases List.mem_cons.mp hother with rfl | hother
    · exact hline
    · exact h.readable other hother
  docs := by simpa using h.docs
  bytes := by
    have hbytes := h.bytes
    rw [List.flatten_cons, List.length_append]
    omega
  eof := h.eof
  progress := fun _ _ _ _ => List.cons_ne_nil _ _

theorem not_full_of_fresh (hfresh : documents = [] ↔ windowBytes = 0)
    (hroom : ¬ (documents.length < maxDocs ∧ windowBytes < maxBytes)) (hempty : documents = [])
    (hmaxDocs : 0 < maxDocs) (hmaxBytes : 0 < maxBytes) : False := by
  apply hroom
  rw [hempty, hfresh.mp hempty]
  exact ⟨hmaxDocs, hmaxBytes⟩

/-- The inner loop reads a group of lines, or raises at a line that is not readable. -/
theorem fillWindow_cases {bytes : Bytes} {lineNum : Nat} (hlines : fileLines bytes = lines)
    (hfresh : documents = [] ↔ windowBytes = 0) (hdocs : documents.length ≤ maxDocs)
    (hbytes : windowBytes ≤ maxBytes) :
    (∃ e, fillWindow py maxDocs maxBytes maxLineBytes documents windowBytes lineNum bytes =
        .error e ∧ ∃ line ∈ lines, ¬ IsReadable py maxBytes maxLineBytes line) ∨
    ∃ group rest read reachedEof,
      Fills py maxDocs maxBytes maxLineBytes documents windowBytes lines group rest read
        reachedEof ∧
      fillWindow py maxDocs maxBytes maxLineBytes documents windowBytes lineNum bytes =
        .ok { documents := documents ++ read, rest := rest.flatten
              lineNum := lineNum + group.length, reachedEof := reachedEof } := by
  induction lines generalizing bytes documents windowBytes lineNum with
  | nil =>
    obtain rfl := fileLines_eq_nil.mp hlines
    right
    by_cases hroom : documents.length < maxDocs ∧ windowBytes < maxBytes
    · refine ⟨[], [], [], true, Fills.stop rfl hdocs hbytes (fun _ => rfl) (by simp), ?_⟩
      rw [fillWindow, if_pos hroom]
      simp [readLine_eof]
    · refine ⟨[], [], [], false, Fills.stop rfl hdocs hbytes (fun _ => rfl)
        (fun _ => not_full_of_fresh hfresh hroom), ?_⟩
      rw [fillWindow, if_neg hroom]
      simp
  | cons line lines ih =>
    have hne : line ≠ [] := fileLines_ne_nil (hlines ▸ List.mem_cons_self ..)
    have hpos : 0 < line.length := List.length_pos_iff.mpr hne
    have hall : (line :: lines).flatten = bytes := by rw [← hlines, flatten_fileLines]
    have hleft : fileLines (line :: lines).flatten = line :: lines := by rw [hall, hlines]
    by_cases hroom : documents.length < maxDocs ∧ windowBytes < maxBytes
    swap
    · right
      refine ⟨[], line :: lines, [], false, Fills.stop hleft hdocs hbytes (by simp)
        (fun _ => not_full_of_fresh hfresh hroom), ?_⟩
      rw [fillWindow, if_neg hroom, hall]
      simp
    have hread : (readLine (min (maxBytes - windowBytes) maxLineBytes + 1) bytes).1 =
        line.take (min (maxBytes - windowBytes) maxLineBytes + 1) := by
      rw [readLine_fileLines hlines]
    have hsome : (readLine (min (maxBytes - windowBytes) maxLineBytes + 1) bytes).1 ≠ [] := by
      rw [hread]
      simpa using hne
    by_cases hfits : line.length ≤ min (maxBytes - windowBytes) maxLineBytes
    · have hwhole := readLine_fits hlines (Nat.le_succ_of_le hfits)
      cases hrecord : windowRecord py line with
      | error fault =>
        left
        refine ⟨fault.error (lineNum + 1), ?_, line, List.mem_cons_self .., ?_⟩
        · rw [fillWindow, if_pos hroom]
          dsimp only
          rw [if_neg hsome, hwhole, if_neg (Nat.not_lt.mpr hfits), hrecord]
        · rintro ⟨-, document, hok⟩
          rw [hrecord] at hok
          cases hok
      | ok document =>
        have hstep : fillWindow py maxDocs maxBytes maxLineBytes documents windowBytes lineNum
            bytes = fillWindow py maxDocs maxBytes maxLineBytes (documents ++ [document])
              (windowBytes + line.length) (lineNum + 1) lines.flatten := by
          rw [fillWindow, if_pos hroom]
          dsimp only
          rw [if_neg hsome, hwhole, if_neg (Nat.not_lt.mpr hfits), hrecord]
        have hreadable : IsReadable py maxBytes maxLineBytes line := by
          refine ⟨?_, document, hrecord⟩
          omega
        have hfresh' : documents ++ [document] = [] ↔ windowBytes + line.length = 0 :=
          ⟨fun h => absurd h (by simp), fun h => absurd h (by omega)⟩
        have hdocs' : (documents ++ [document]).length ≤ maxDocs := by
          rw [List.length_append, List.length_singleton]
          omega
        rcases @ih _ _ _ (lineNum + 1) (fileLines_tail hlines) hfresh' hdocs' (by omega) with
          ⟨e, he, bad, hbad, hnot⟩ | ⟨group, rest, read, reachedEof, hfills, hfill⟩
        · exact Or.inl ⟨e, hstep.trans he, bad, List.mem_cons_of_mem _ hbad, hnot⟩
        · right
          refine ⟨line :: group, rest, document :: read, reachedEof, hfills.cons hreadable hrecord,
            ?_⟩
          rw [hstep, hfill, List.append_assoc, List.length_cons]
          simp [Nat.add_comm, Nat.add_left_comm]
    · have hlong : min (maxBytes - windowBytes) maxLineBytes <
          (readLine (min (maxBytes - windowBytes) maxLineBytes + 1) bytes).1.length := by
        rw [hread, List.length_take]
        omega
      by_cases hopen : documents ≠ [] ∨ windowBytes ≠ 0
      · right
        refine ⟨[], line :: lines, [], false, Fills.stop hleft hdocs hbytes (by simp) ?_, ?_⟩
        · intro _ hempty _ _
          rcases hopen with h | h
          · exact h hempty
          · exact h (hfresh.mp hempty)
        · rw [fillWindow, if_pos hroom, hall]
          dsimp only
          rw [if_neg hsome, if_pos hlong, if_pos hopen]
          simp
      · left
        refine ⟨recordTooLong, ?_, line, List.mem_cons_self .., ?_⟩
        · rw [fillWindow, if_pos hroom]
          dsimp only
          rw [if_neg hsome, if_pos hlong, if_neg hopen]
        · rintro ⟨hlength, -⟩
          have hzero : windowBytes = 0 := by
            by_contra hne
            exact hopen (Or.inr hne)
          omega

end Window

/-! ## All windows -/

structure HoldsGroup (py : JsonReader) (maxDocs maxBytes : Nat) (group : List Bytes)
    (window : List Document) : Prop where
  records : group.map (windowRecord py) = window.map .ok
  nonempty : window ≠ []
  docs : window.length ≤ maxDocs
  bytes : group.flatten.length ≤ maxBytes

/-- What the iteration over a file with these lines does: it yields the windows of some groups of
the first lines, of all lines if it does not raise, and raises just where a line is not readable. -/
structure Iterates (py : JsonReader) (maxDocs maxBytes maxLineBytes : Nat) (lines : List Bytes)
    (groups : List (List Bytes)) (iteration : Iteration) : Prop where
  windows : List.Forall₂ (HoldsGroup py maxDocs maxBytes) groups iteration.windows
  prefixed : groups.flatten <+: lines
  complete : iteration.raised = none → groups.flatten = lines
  raised : iteration.raised = none ↔ ∀ line ∈ lines, IsReadable py maxBytes maxLineBytes line

theorem Iterates.cons {group rest : List Bytes} {window : List Document}
    {groups : List (List Bytes)} {more : Iteration}
    (hwindow : HoldsGroup py maxDocs maxBytes group window)
    (hgroup : ∀ line ∈ group, IsReadable py maxBytes maxLineBytes line)
    (h : Iterates py maxDocs maxBytes maxLineBytes rest groups more) :
    Iterates py maxDocs maxBytes maxLineBytes (group ++ rest) (group :: groups)
      { more with windows := window :: more.windows } where
  windows := List.Forall₂.cons hwindow h.windows
  prefixed := by
    rw [List.flatten_cons]
    exact (List.prefix_append_right_inj group).mpr h.prefixed
  complete := fun hnone => by rw [List.flatten_cons, h.complete hnone]
  raised := by
    rw [show ({ more with windows := window :: more.windows } : Iteration).raised = more.raised
      from rfl, h.raised]
    refine ⟨fun hrest line hline => ?_, fun hall line hline => ?_⟩
    · rcases List.mem_append.mp hline with hline | hline
      · exact hgroup line hline
      · exact hrest line hline
    · exact hall line (List.mem_append_right _ hline)

theorem Fills.holdsGroup {lines group rest : List Bytes} {read : List Document} {reachedEof : Bool}
    (h : Fills py maxDocs maxBytes maxLineBytes [] 0 lines group rest read reachedEof)
    (hread : read ≠ []) : HoldsGroup py maxDocs maxBytes group read where
  records := h.records
  nonempty := hread
  docs := by simpa using h.docs
  bytes := by simpa using h.bytes

theorem Fills.group_eq_nil_iff {documents : List Document} {windowBytes : Nat}
    {lines group rest : List Bytes} {read : List Document} {reachedEof : Bool}
    (h : Fills py maxDocs maxBytes maxLineBytes documents windowBytes lines group rest read
      reachedEof) : group = [] ↔ read = [] := by
  rw [← List.map_eq_nil_iff (f := windowRecord py), h.records, List.map_eq_nil_iff]

theorem Iterates.nil : Iterates py maxDocs maxBytes maxLineBytes [] []
    { windows := [], raised := none } where
  windows := List.Forall₂.nil
  prefixed := List.prefix_rfl
  complete := fun _ => rfl
  raised := ⟨fun _ _ h => absurd h List.not_mem_nil, fun _ => rfl⟩

theorem iterWindows_iterates (hmaxDocs : 0 < maxDocs) (hmaxBytes : 0 < maxBytes) (n : Nat) :
    ∀ (lines : List Bytes) (bytes : Bytes) (lineNum : Nat), fileLines bytes = lines →
      lines.length < n → ∃ groups iteration,
        Iterates py maxDocs maxBytes maxLineBytes lines groups iteration ∧
        ∀ fuel, n ≤ fuel →
          iterWindows py maxDocs maxBytes maxLineBytes fuel lineNum bytes = some iteration := by
  induction n with
  | zero => exact fun lines _ _ _ hlength => absurd hlength (Nat.not_lt_zero _)
  | succ n ih =>
    intro lines bytes lineNum hlines hlength
    have hsucc : ∀ fuel, n + 1 ≤ fuel → ∃ fuel', fuel = fuel' + 1 ∧ n ≤ fuel' := by
      intro fuel hfuel
      exact ⟨fuel - 1, by omega, by omega⟩
    rcases @fillWindow_cases py maxDocs maxBytes maxLineBytes [] 0 lines bytes lineNum hlines
        (by simp) (Nat.zero_le _) (Nat.zero_le _) with
      ⟨e, he, line, hline, hnot⟩ | ⟨group, rest, read, reachedEof, hfills, hfill⟩
    · refine ⟨[], { windows := [], raised := some e }, ⟨List.Forall₂.nil, List.nil_prefix, nofun,
        nofun, fun hall => absurd (hall line hline) hnot⟩, ?_⟩
      intro fuel hfuel
      obtain ⟨fuel', rfl, -⟩ := hsucc fuel hfuel
      rw [iterWindows, he]
    · rw [List.nil_append] at hfill
      cases reachedEof with
      | true =>
        obtain rfl := hfills.eof rfl
        obtain rfl : lines = group := by rw [hfills.split, List.append_nil]
        by_cases hread : read = []
        · obtain rfl := hfills.group_eq_nil_iff.mpr hread
          refine ⟨[], _, Iterates.nil, fun fuel hfuel => ?_⟩
          obtain ⟨fuel', rfl, -⟩ := hsucc fuel hfuel
          rw [iterWindows, hfill]
          simp [hread]
        · have hiterates := Iterates.cons (hfills.holdsGroup hread) hfills.readable Iterates.nil
          rw [List.append_nil] at hiterates
          refine ⟨_, _, hiterates, fun fuel hfuel => ?_⟩
          obtain ⟨fuel', rfl, -⟩ := hsucc fuel hfuel
          rw [iterWindows, hfill]
          simp [hread]
      | false =>
        have hread : read ≠ [] := hfills.progress rfl rfl hmaxDocs hmaxBytes
        have hgroup : group ≠ [] := fun h => hread (hfills.group_eq_nil_iff.mp h)
        have hshorter : rest.length < n := by
          have hpos := List.length_pos_iff.mpr hgroup
          have hsum := congrArg List.length hfills.split
          rw [List.length_append] at hsum
          omega
        obtain ⟨groups, more, hiterates, hmore⟩ :=
          ih rest rest.flatten (lineNum + group.length) hfills.left hshorter
        have hsplit := hfills.split
        subst hsplit
        refine ⟨_, _, Iterates.cons (hfills.holdsGroup hread) hfills.readable hiterates,
          fun fuel hfuel => ?_⟩
        obtain ⟨fuel', rfl, hfuel'⟩ := hsucc fuel hfuel
        rw [iterWindows, hfill]
        simp [hread, hmore fuel' hfuel']

theorem records_of_windows {groups : List (List Bytes)} {windows : List (List Document)}
    (h : List.Forall₂ (HoldsGroup py maxDocs maxBytes) groups windows) :
    groups.flatten.map (windowRecord py) = windows.flatten.map .ok := by
  induction h with
  | nil => rfl
  | cons hwindow _ ih =>
    rw [List.flatten_cons, List.flatten_cons, List.map_append, List.map_append, hwindow.records, ih]

/-- For every file the iteration ends. It raises just where a line is too long or no record; its
windows are the documents of groups of consecutive lines within the limits, and of all lines in
order if it does not raise. -/
theorem iterDocumentWindows_lossless (py : JsonReader) (settings : Settings)
    {maxDocs maxBytes : Nat} (hmaxDocs : 0 < maxDocs) (hmaxBytes : 0 < maxBytes) (bytes : Bytes) :
    ∃ iteration groups, (∀ fuel, bytes.length < fuel →
        iterDocumentWindows py maxDocs maxBytes settings fuel bytes = some iteration) ∧
      List.Forall₂ (HoldsGroup py maxDocs maxBytes) groups iteration.windows ∧
      groups.flatten <+: fileLines bytes ∧
      (iteration.raised ≠ none ↔ ∃ line ∈ fileLines bytes,
        min maxBytes settings.syncMaxRecordBytes < line.length ∨
          ∀ document, windowRecord py line ≠ .ok document) ∧
      (iteration.raised = none → groups.flatten = fileLines bytes ∧
        (fileLines bytes).map (windowRecord py) = iteration.windows.flatten.map .ok) := by
  obtain ⟨groups, iteration, hiterates, hfuel⟩ :=
    @iterWindows_iterates py maxDocs maxBytes (min maxBytes settings.syncMaxRecordBytes)
      hmaxDocs hmaxBytes ((fileLines bytes).length + 1) (fileLines bytes) bytes 0 rfl
      (Nat.lt_succ_self _)
  have hlength := length_fileLines_le bytes
  refine ⟨iteration, groups, fun fuel h => hfuel fuel (by omega), hiterates.windows,
    hiterates.prefixed, ?_, fun hnone => ?_⟩
  · rw [ne_eq, hiterates.raised]
    unfold IsReadable
    simp only [not_forall, not_and_or, Nat.not_le, not_exists, ← min_assoc, min_self, exists_prop]
  · have hall := hiterates.complete hnone
    refine ⟨hall, ?_⟩
    rw [← hall]
    exact records_of_windows hiterates.windows

def helloDocument : String := "\x7b\"content\": \"hello\"\x7d"

def oneDocument : JsonReader where
  toJsonStdlib := oneRecordText
  loads text := if text = helloDocument then some (.obj [("content", .str "hello")]) else none

def twoHellos : Bytes := utf8 (helloDocument ++ "\n" ++ helloDocument ++ "\n")

/-- A window of 30 bytes has room for one of the lines; the other is read again for the next. -/
theorem iterDocumentWindows_hello :
    ∃ iteration, iterDocumentWindows oneDocument 5 30 {} 50 twoHellos = some iteration ∧
      iteration.windows.map List.length = [1, 1] ∧
      (iteration.raised = none →
        (fileLines twoHellos).map (windowRecord oneDocument) =
          iteration.windows.flatten.map .ok) := by
  obtain ⟨iteration, groups, hfuel, -, -, -, hcomplete⟩ :=
    iterDocumentWindows_lossless oneDocument {} (Nat.succ_pos 4) (Nat.succ_pos 29) twoHellos
  have hrun := hfuel 50 (by decide +kernel)
  have hwindows : (iterDocumentWindows oneDocument 5 30 {} 50 twoHellos).map
      (fun iteration => iteration.windows.map List.length) = some [1, 1] := by decide +kernel
  rw [hrun] at hwindows
  exact ⟨iteration, hrun, Option.some.inj hwindows, fun hnone => (hcomplete hnone).2⟩

end Sync
